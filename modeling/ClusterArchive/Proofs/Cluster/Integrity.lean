import ClusterArchive.Proofs.Cluster.Consistent
import ClusterArchive.Proofs.Restore.Upsert

/-! Calls on a cluster are atomic, and objects stay in their place. A call that fails leaves all as it
was, a write changes one key, and no key is lost. So an object that a client created or updated in a
namespace never loses that namespace, nor its scope, whatever is called later. -/

namespace ClusterArchive.MemoryCluster

/-- One key holds another object than before, under the next version; nothing else differs. -/
structure Writes (before after : MemoryCluster) (key : ObjectKey) : Prop where
  stored : (after.object? key).isSome
  changed : after.object? key ≠ before.object? key
  others : ∀ other, other ≠ key → after.object? other = before.object? other
  version : after.version = before.version + 1
  rest : { after with objects := before.objects, version := before.version } = before

structure Atomic (cluster : MemoryCluster) (action : Action) : Prop where
  /-- A call that fails changes nothing. -/
  failed : cluster.succeeds action = false → cluster.act action = cluster
  /-- A seed, a creation or an update that succeeds changes the object under its key. -/
  writes : ∀ key, action.target? = some key → cluster.succeeds action = true →
    Writes cluster (cluster.act action) key
  /-- Questions change nothing. -/
  reads : ∀ {α : Type} (cancelled : Bool) (asked : Request α), action = .request cancelled asked →
    asked.target? = none → cluster.act action = cluster
  /-- What else is arranged leaves the objects and their version alone. -/
  arranges : action.target? = none → (cluster.act action).objects = cluster.objects ∧
    (cluster.act action).version = cluster.version
  /-- No key is lost. -/
  keeps : ∀ key, (cluster.object? key).isSome → ((cluster.act action).object? key).isSome

/-- An object in its place: stored in the scope that the first registration of its type gives, and in
a namespace that is stored. -/
structure Placed (cluster : MemoryCluster) (key : ObjectKey) : Prop where
  present : (cluster.object? key).isSome
  registered : cluster.Registers key.type key.ns
  housed : ∀ ns, key.ns = some ns → (cluster.object? (namespaceKey ns)).isSome

/-! What a call does. -/

theorem history_act (cluster : MemoryCluster) (action : Action) :
    History (fun _ => True) cluster (cluster.act action) := by
  cases action with
  | arrange arrangement => exact .single (.arrange arrangement trivial)
  | request cancelled asked => exact .single (.request cancelled asked)

theorem history_run (cluster : MemoryCluster) (actions : List Action) :
    History (fun _ => True) cluster (cluster.run actions) := by
  induction actions generalizing cluster with
  | nil => exact .refl
  | cons action rest ih => exact (history_act cluster action).trans (ih (cluster.act action))

/-- What is written next was not there before: no stored object carries the next version. -/
theorem Numbered.writes_store {cluster : MemoryCluster} {writes : List (ObjectKey × Nat)}
    (numbered : Numbered cluster writes) {key : ObjectKey} {object : Document}
    (next : IsNext cluster key object) : Writes cluster (cluster.store key object) key where
  stored := by simp
  changed := by
    intro same
    rw [object?_store, if_pos rfl] at same
    obtain ⟨version, last, is⟩ := numbered.stored same.symm
    rw [next.versioned, Option.some.injEq] at is
    have bounds := numbered.bounds (mem_of_lastVersion? last)
    have : cluster.version + 1 = version := versionText_inj.mp (congrArg Json.string is)
    omega
  others := by
    intro other apart
    rw [object?_store, if_neg (Ne.symm apart)]
  version := rfl
  rest := rfl

theorem Numbered.atomic {cluster : MemoryCluster} {writes : List (ObjectKey × Nat)}
    (numbered : Numbered cluster writes) (action : Action) : Atomic cluster action where
  failed := by
    intro failed
    rcases act_outcome numbered.sound action with ⟨_, same⟩ | ⟨success, _⟩ | ⟨success, _⟩
    · exact same
    · rw [failed] at success
      cases success
    · rw [failed] at success
      cases success
  writes := by
    intro key target success
    rcases act_outcome numbered.sound action with
      ⟨failed, _⟩ | ⟨_, quiet, _⟩ | ⟨_, other, object, is, next, after⟩
    · rw [success] at failed
      cases failed
    · rw [target] at quiet
      cases quiet
    · obtain rfl : other = key := Option.some.inj (is.symm.trans target)
      rw [after]
      exact numbered.writes_store next
  reads := by
    rintro α cancelled asked rfl quiet
    rcases cluster.perform_answered cancelled asked with ⟨error, failed⟩ | ⟨reply, after, answered, done⟩
    · rw [MemoryCluster.act, failed]
    · rw [MemoryCluster.act, done]
      rcases answer_cases numbered.sound answered with ⟨_, same⟩ | ⟨_, _, target, _⟩
      · exact same
      · rw [quiet] at target
        cases target
  arranges := by
    intro quiet
    rcases act_outcome numbered.sound action with
      ⟨_, same⟩ | ⟨_, _, objects, version⟩ | ⟨_, _, _, target, _⟩
    · rw [same]
      exact ⟨rfl, rfl⟩
    · exact ⟨objects, version⟩
    · rw [quiet] at target
      cases target
  keeps := ((history_act cluster action).sound numbered.sound).2.keys

/-! Objects in their place. -/

theorem answer_scope {cluster after : MemoryCluster} {α : Type} {asked : Request α} {reply : α}
    {key : ObjectKey} (answered : cluster.answer asked = (.ok reply, after))
    (target : asked.target? = some key) : cluster.checkScope key.type key.ns = .ok () := by
  cases asked with
  | discover | list | get => cases target
  | create type ns object =>
    obtain rfl := Option.some.inj target
    obtain ⟨_, _, scope, _⟩ := create_cases answered
    exact scope
  | update type ns object =>
    obtain rfl := Option.some.inj target
    obtain ⟨_, _, _, scope, _⟩ := update_cases answered
    exact scope

theorem Placed.extend {before after : MemoryCluster} {key : ObjectKey} (placed : Placed before key)
    (further : Extends before after) : Placed after key where
  present := further.keys key placed.present
  registered := further.registers placed.registered
  housed := fun ns inside => further.keys _ (placed.housed ns inside)

theorem Numbered.placed {cluster : MemoryCluster} {writes : List (ObjectKey × Nat)}
    (numbered : Numbered cluster writes) {α : Type} {cancelled : Bool} {asked : Request α}
    {key : ObjectKey} (target : asked.target? = some key)
    (success : cluster.succeeds (.request cancelled asked) = true) :
    Placed (cluster.act (.request cancelled asked)) key := by
  obtain ⟨reply, after, answered, _⟩ := succeeds_request.mp success
  obtain ⟨registers, housed⟩ := checkScope_eq_ok.mp (answer_scope answered target)
  have further := ((history_act cluster (.request cancelled asked)).sound numbered.sound).2
  exact {
    present := ((numbered.atomic (.request cancelled asked)).writes key target success).stored
    registered := further.registers registers
    housed := fun ns inside => further.keys _ (housed ns inside) }

/-- Whatever was called on a cluster before, calls are atomic, and what a client creates or updates is
in its place from then on. -/
theorem run_integrity {start : MemoryCluster} (fresh : start = .empty ∨ start = .standard)
    (past : List Action) :
    (∀ action, Atomic (start.run past) action) ∧
    ∀ {α : Type} (cancelled : Bool) (asked : Request α) (key : ObjectKey),
      asked.target? = some key → (start.run past).succeeds (.request cancelled asked) = true →
      ∀ later, Placed (((start.run past).act (.request cancelled asked)).run later) key := by
  have numbered := (Numbered.fresh fresh).run past
  refine ⟨numbered.atomic, ?_⟩
  intro α cancelled asked key target success later
  have sound := (numbered.act (.request cancelled asked)).sound
  exact (numbered.placed target success).extend ((history_run _ later).sound sound).2

/-- The type of the configuration is registered once more, for objects outside of namespaces. -/
def reregistration : Action := .arrange (.register ⟨settingsKey.type, "ConfigMap", false, ["list"]⟩)

theorem run_integrity_reregistered :
    Writes (standard.run settingsCalls) ((standard.run settingsCalls).act renewal) settingsKey ∧
    Placed (((standard.run settingsCalls).act renewal).run [reregistration, renewal]) settingsKey := by
  obtain ⟨atomic, placed⟩ := run_integrity (.inr rfl) settingsCalls
  have success : (standard.run settingsCalls).succeeds renewal = true := by rfl
  exact ⟨(atomic renewal).writes settingsKey rfl success,
    placed false (.update _ _ _) settingsKey rfl success [reregistration, renewal]⟩

end ClusterArchive.MemoryCluster
