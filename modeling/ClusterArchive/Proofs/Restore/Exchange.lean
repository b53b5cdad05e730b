import ClusterArchive.Proofs.Restore.Outcome

/-! What a restore asks of a server, whatever the server answers. Each call is recorded with its
answer. The record is a row of conversations, one about each item that was begun, and only the last
of them can have failed. -/

namespace ClusterArchive

inductive Exchange
  | create (type : ResourceType) (ns : Option String) (object : Document)
    (answer : Except ClusterError Document)
  | get (type : ResourceType) (ns : Option String) (name : String)
    (answer : Except ClusterError Document)
  | update (type : ResourceType) (ns : Option String) (object : Document)
    (answer : Except ClusterError Document)

namespace Exchange

/-- What failed, and why. A creation does not fail because the object exists. -/
def failure? : Exchange → Option (ApplyAction × ClusterError)
  | create _ _ _ (.error (.alreadyExists ..)) => none
  | create _ _ _ (.error error) => some (.create, error)
  | get _ _ _ (.error error) => some (.fetch, error)
  | update _ _ _ (.error error) => some (.update, error)
  | _ => none

def sent? : Exchange → Option (ResourceType × Option String × Document)
  | create type ns object _ => some (type, ns, object)
  | _ => none

def creates : Exchange → Bool
  | create _ _ _ (.ok _) => true
  | _ => false

end Exchange

variable {σ τ : Type}

def beside {α : Type} (question : σ → α × σ) (s : σ × τ) : α × σ × τ :=
  ((question s.1).1, (question s.1).2, s.2)

def Applier.recorded (applier : Applier σ) : Applier (σ × List Exchange) where
  create type ns object s :=
    let (answer, next) := applier.create type ns object s.1
    (answer, next, s.2 ++ [.create type ns object answer])
  get type ns name s :=
    let (answer, next) := applier.get type ns name s.1
    (answer, next, s.2 ++ [.get type ns name answer])
  update type ns object s :=
    let (answer, next) := applier.update type ns object s.1
    (answer, next, s.2 ++ [.update type ns object answer])

/-- An object as it is sent over a fetched one: with the version of that one, if it has one. -/
def Revised (object live sent : Document) : Prop :=
  match live.resourceVersion? with
  | none => sent = object
  | some version => ∃ metadata, sent.metadata? = some metadata ∧
      Assoc.get? "resourceVersion" metadata = some (.string version) ∧
      (∀ key, key ≠ "resourceVersion" →
        Assoc.get? key metadata = Assoc.get? key object.metadata) ∧
      ∀ key, key ≠ "metadata" → Assoc.get? key sent = Assoc.get? key object

theorem RestoreItem.revised_desired (item : RestoreItem) (live : Document) :
    Revised item.object live (item.desired live) := by
  unfold Revised desired
  cases live.resourceVersion? with
  | none => rfl
  | some version =>
    refine ⟨_, Document.metadata?_withMetadata .., by simp, fun key other => ?_, fun key other => ?_⟩
    · simp [Ne.symm other]
    · simp [Document.stamp, Document.withMetadata, Ne.symm other]

def told (action : ApplyAction) (entry : Entry) (error : ClusterError) : RunError :=
  if error = .cancelled then .cancelled else .apply action (entry.ns.getD "") entry.name error

theorem Applier.failure_eq (action : ApplyAction) (entry : Entry) (error : ClusterError) :
    Applier.failure action entry error = told action entry error := by
  cases error <;> simp [Applier.failure, told]

/-- What can be said about an item, and what comes of it. The object is fetched exactly if it exists
already, and sent again exactly if it was fetched. -/
inductive Conversation (item : RestoreItem) :
    List Exchange → Except RunError ApplyOutcome → Prop
  | created (stored : Document) :
    Conversation item [.create item.entry.type item.entry.ns item.object (.ok stored)] (.ok .created)
  | refused (error : ClusterError) (new : ∀ resource name, error ≠ .alreadyExists resource name) :
    Conversation item [.create item.entry.type item.entry.ns item.object (.error error)]
      (.error (told .create item.entry error))
  | unfetched (resource name : String) (error : ClusterError) :
    Conversation item
      [.create item.entry.type item.entry.ns item.object (.error (.alreadyExists resource name)),
        .get item.entry.type item.entry.ns item.entry.name (.error error)]
      (.error (told .fetch item.entry error))
  | updated (resource name : String) (live sent stored : Document)
    (revised : Revised item.object live sent) :
    Conversation item
      [.create item.entry.type item.entry.ns item.object (.error (.alreadyExists resource name)),
        .get item.entry.type item.entry.ns item.entry.name (.ok live),
        .update item.entry.type item.entry.ns sent (.ok stored)]
      (.ok .updated)
  | rejected (resource name : String) (live sent : Document) (error : ClusterError)
    (revised : Revised item.object live sent) :
    Conversation item
      [.create item.entry.type item.entry.ns item.object (.error (.alreadyExists resource name)),
        .get item.entry.type item.entry.ns item.entry.name (.ok live),
        .update item.entry.type item.entry.ns sent (.error error)]
      (.error (told .update item.entry error))

structure Talk where
  item : RestoreItem
  exchanges : List Exchange
  outcome : Except RunError ApplyOutcome
  conversation : Conversation item exchanges outcome

namespace Talk

theorem sent (talk : Talk) : talk.exchanges.filterMap Exchange.sent? =
    [(talk.item.entry.type, talk.item.entry.ns, talk.item.object)] := by
  obtain ⟨item, exchanges, outcome, conversation⟩ := talk
  cases conversation <;> rfl

theorem fine {talk : Talk} {outcome : ApplyOutcome} (succeeded : talk.outcome = .ok outcome) :
    ∀ exchange ∈ talk.exchanges, exchange.failure? = none := by
  obtain ⟨item, exchanges, outcome, conversation⟩ := talk
  cases conversation with
  | created | updated => simp [Exchange.failure?]
  | refused | unfetched | rejected => simp at succeeded

theorem countP_creates {talk : Talk} {outcome : ApplyOutcome} (succeeded : talk.outcome = .ok outcome) :
    talk.exchanges.countP Exchange.creates = if outcome = .created then 1 else 0 := by
  obtain ⟨item, exchanges, outcome, conversation⟩ := talk
  cases conversation with
  | created | updated =>
    obtain rfl := Except.ok.inj succeeded
    rfl
  | refused | unfetched | rejected => simp at succeeded

theorem failed {talk : Talk} {error : RunError} (failed : talk.outcome = .error error) :
    ∃ before exchange action reason, talk.exchanges = before ++ [exchange] ∧
      (∀ other ∈ before, other.failure? = none) ∧ exchange.failure? = some (action, reason) ∧
      error = told action talk.item.entry reason := by
  obtain ⟨item, exchanges, outcome, conversation⟩ := talk
  cases conversation with
  | created | updated => simp at failed
  | refused reason new =>
    obtain rfl := Except.error.inj failed
    refine ⟨[], _, .create, reason, rfl, by simp, ?_, rfl⟩
    cases reason with
    | alreadyExists resource name => exact absurd rfl (new resource name)
    | _ => rfl
  | unfetched resource name reason =>
    obtain rfl := Except.error.inj failed
    exact ⟨[_], _, .fetch, reason, rfl, by simp [Exchange.failure?], rfl, rfl⟩
  | rejected resource name live sent reason revised =>
    obtain rfl := Except.error.inj failed
    exact ⟨[_, _], _, .update, reason, rfl, by simp [Exchange.failure?], rfl, rfl⟩

end Talk

namespace Applier

/-- Whatever the server answers, there is one conversation about an item. The record changes
nothing. -/
theorem applyItem_talk (applier : Applier σ) (item : RestoreItem) (s : σ) (record : List Exchange) :
    ∃ talk : Talk, talk.item = item ∧ talk.outcome = (applier.applyItem item s).1 ∧
      applier.recorded.applyItem item (s, record) =
        (talk.outcome, (applier.applyItem item s).2, record ++ talk.exchanges) := by
  rcases created : applier.create item.entry.type item.entry.ns item.object s with ⟨answer, next⟩
  rcases answer with error | stored
  · by_cases known : ∃ resource name, error = .alreadyExists resource name
    · obtain ⟨resource, name, rfl⟩ := known
      rcases fetched : applier.get item.entry.type item.entry.ns item.entry.name next with
        ⟨answer, next⟩
      rcases answer with error | live
      · refine ⟨⟨item, _, _, .unfetched resource name error⟩, rfl, ?_, ?_⟩
        · simp [applyItem, replace, created, fetched, failure_eq]
        · simp [applyItem, replace, recorded, created, fetched, failure_eq]
      · have revised := item.revised_desired live
        rcases updated : applier.update item.entry.type item.entry.ns (item.desired live) next with
          ⟨answer, next⟩
        rcases answer with error | stored
        · refine ⟨⟨item, _, _, .rejected resource name live _ error revised⟩, rfl, ?_, ?_⟩
          · simp [applyItem, replace, created, fetched, updated, failure_eq]
          · simp [applyItem, replace, recorded, created, fetched, updated, failure_eq]
        · refine ⟨⟨item, _, _, .updated resource name live _ stored revised⟩, rfl, ?_, ?_⟩
          · simp [applyItem, replace, created, fetched, updated]
          · simp [applyItem, replace, recorded, created, fetched, updated]
    · have new : ∀ resource name, error ≠ .alreadyExists resource name :=
        fun resource name same => known ⟨resource, name, same⟩
      refine ⟨⟨item, _, _, .refused error new⟩, rfl, ?_, ?_⟩
      · cases error with
        | alreadyExists resource name => exact absurd rfl (new resource name)
        | _ => simp [applyItem, created, failure_eq]
      · cases error with
        | alreadyExists resource name => exact absurd rfl (new resource name)
        | _ => simp [applyItem, recorded, created, failure_eq]
  · refine ⟨⟨item, _, _, .created stored⟩, rfl, ?_, ?_⟩
    · simp [applyItem, created]
    · simp [applyItem, recorded, created]

def Ends (items : List RestoreItem) (start : ApplySummary) (talks : List Talk) :
    Except RunError ApplySummary → Prop
  | .ok summary => talks.map Talk.item = items ∧ ∃ outcomes : List ApplyOutcome,
      talks.map Talk.outcome = outcomes.map .ok ∧ summary = outcomes.foldl ApplySummary.record start
  | .error error => ∃ before talk, talks = before ++ [talk] ∧
      (∀ other ∈ before, ∃ outcome, other.outcome = .ok outcome) ∧ talk.outcome = .error error

theorem applyInOrder_talks (applier : Applier σ) {cancelled : σ → Bool × σ}
    (never : ∀ s, (cancelled s).1 = false) (start : ApplySummary) (items : List RestoreItem) (s : σ)
    (record : List Exchange) :
    ∃ talks : List Talk, talks.map Talk.item <+: items ∧
      Ends items start talks (applier.applyInOrder cancelled start items s).1 ∧
      applier.recorded.applyInOrder (beside cancelled) start items (s, record) =
        ((applier.applyInOrder cancelled start items s).1,
          (applier.applyInOrder cancelled start items s).2,
          record ++ talks.flatMap Talk.exchanges) := by
  induction items generalizing start s record with
  | nil => exact ⟨[], List.prefix_refl _, ⟨rfl, [], rfl, rfl⟩, by simp [applyInOrder]⟩
  | cons item rest ih =>
    have going := never s
    rcases asked : cancelled s with ⟨answer, next⟩
    obtain rfl : answer = false := by simpa [asked] using going
    have askedBeside : beside cancelled (s, record) = (false, next, record) := by
      simp [beside, asked]
    obtain ⟨talk, isItem, outcome, talked⟩ := applier.applyItem_talk item next record
    simp only [applyInOrder, asked, askedBeside, talked]
    rcases applied : applier.applyItem item next with ⟨result, after⟩
    rw [applied] at outcome
    cases result with
    | error error =>
      refine ⟨[talk], ?_, ⟨[], talk, rfl, by simp, outcome⟩, ?_⟩
      · simp [isItem]
      · simp [outcome]
    | ok made =>
      simp only [outcome]
      obtain ⟨talks, within, ends, later⟩ := ih (start.record made) after (record ++ talk.exchanges)
      refine ⟨talk :: talks, ?_, ?_, ?_⟩
      · simpa [isItem] using within
      · generalize (applier.applyInOrder cancelled (start.record made) rest after).1 = result at ends
        cases result with
        | ok summary =>
          obtain ⟨all, outcomes, same, rfl⟩ := ends
          exact ⟨by simp [isItem, all], made :: outcomes, by simp [outcome, same], rfl⟩
        | error error =>
          obtain ⟨before, last, rfl, fine, failed⟩ := ends
          refine ⟨talk :: before, last, rfl, ?_, failed⟩
          exact List.forall_mem_cons.mpr ⟨⟨made, outcome⟩, fine⟩
      · rw [later]
        simp

theorem schedule_eq (items : List RestoreItem) : schedule items =
    items.filter (·.entry.ns.isNone) ++ items.filter (·.entry.ns.isSome) := by
  have outside : (fun item : RestoreItem => !item.entry.isClusterScoped) =
      fun item => item.entry.ns.isSome := by
    funext item
    cases scope : item.entry.ns <;> simp [Entry.isClusterScoped, scope]
  rw [schedule, outside]
  rfl

theorem record_counts (outcomes : List ApplyOutcome) (start : ApplySummary) :
    let summary := outcomes.foldl ApplySummary.record start
    summary.created = start.created + outcomes.count .created ∧
      summary.created + summary.updated = start.created + start.updated + outcomes.length := by
  induction outcomes generalizing start with
  | nil => simp
  | cons outcome rest ih =>
    obtain ⟨created, all⟩ := ih (start.record outcome)
    simp only [List.foldl_cons, List.length_cons] at created all ⊢
    cases outcome <;> simp [ApplySummary.record] at created all ⊢ <;> omega

theorem Ends.fine {items : List RestoreItem} {start summary : ApplySummary} {talks : List Talk}
    (ends : Ends items start talks (.ok summary)) :
    ∀ exchange ∈ talks.flatMap Talk.exchanges, exchange.failure? = none := by
  obtain ⟨_, outcomes, same, _⟩ := ends
  intro exchange member
  obtain ⟨talk, isTalk, inside⟩ := List.mem_flatMap.mp member
  have outcome := List.mem_map_of_mem (f := Talk.outcome) isTalk
  rw [same] at outcome
  obtain ⟨made, _, succeeded⟩ := List.mem_map.mp outcome
  exact Talk.fine succeeded.symm exchange inside

/-- A run that fails does so with the last call of its last conversation. -/
theorem Ends.failed {items : List RestoreItem} {start : ApplySummary} {talks : List Talk}
    {error : RunError} (ends : Ends items start talks (.error error)) :
    ∃ before talk exchange action reason, talks.flatMap Talk.exchanges = before ++ [exchange] ∧
      (∀ other ∈ before, other.failure? = none) ∧ talks.getLast? = some talk ∧
      talk.exchanges.getLast? = some exchange ∧ exchange.failure? = some (action, reason) ∧
      error = told action talk.item.entry reason := by
  obtain ⟨earlier, talk, rfl, fine, failed⟩ := ends
  obtain ⟨before, exchange, action, reason, exchanges, fineHere, isFailure, rfl⟩ :=
    Talk.failed failed
  refine ⟨earlier.flatMap Talk.exchanges ++ before, talk, exchange, action, reason, ?_, ?_, by simp,
    by simp [exchanges], isFailure, rfl⟩
  · simp [exchanges]
  · intro other member
    rcases List.mem_append.mp member with inEarlier | here
    · obtain ⟨one, isOne, inside⟩ := List.mem_flatMap.mp inEarlier
      obtain ⟨outcome, succeeded⟩ := fine one isOne
      exact Talk.fine succeeded other inside
    · exact fineHere other here

theorem Ends.counts {items : List RestoreItem} {summary : ApplySummary} {talks : List Talk}
    (ends : Ends items ⟨0, 0⟩ talks (.ok summary)) :
    summary.created + summary.updated = items.length ∧
      summary.created = (talks.flatMap Talk.exchanges).countP Exchange.creates := by
  obtain ⟨all, outcomes, same, rfl⟩ := ends
  obtain ⟨created, total⟩ := record_counts outcomes ⟨0, 0⟩
  have lengths : outcomes.length = items.length := by
    have counted := congrArg List.length same
    rw [← all]
    simpa using counted.symm
  refine ⟨by simpa [lengths] using total, ?_⟩
  rw [created, Nat.zero_add]
  clear all created total lengths
  induction talks generalizing outcomes with
  | nil =>
    obtain rfl := List.map_eq_nil_iff.mp same.symm
    rfl
  | cons talk rest ih =>
    cases outcomes with
    | nil => simp at same
    | cons outcome outcomes =>
      obtain ⟨here, later⟩ := List.cons.inj same
      rw [List.flatMap_cons, List.countP_append, Talk.countP_creates here, ← ih outcomes later,
        List.count_cons]
      simp [Nat.add_comm]

end Applier

/-- What a server sees of a restore, and what the restore tells of it. -/
structure Protocol (items : List RestoreItem) (trace : List Exchange)
    (outcome : Except RunError ApplySummary) (talks : List Talk) : Prop where
  talked : trace = talks.flatMap Talk.exchanges
  inOrder : talks.map Talk.item <+:
    items.filter (·.entry.ns.isNone) ++ items.filter (·.entry.ns.isSome)
  sent : trace.filterMap Exchange.sent? =
    talks.map fun talk => (talk.item.entry.type, talk.item.entry.ns, talk.item.object)
  stops : ∀ before exchange after, trace = before ++ exchange :: after →
    exchange.failure? ≠ none → after = []
  succeeds : (∃ summary, outcome = .ok summary) ↔ ∀ exchange ∈ trace, exchange.failure? = none
  counts : ∀ summary, outcome = .ok summary → talks.length = items.length ∧
    summary.created + summary.updated = items.length ∧
    summary.created = trace.countP Exchange.creates
  fails : ∀ error, outcome = .error error → ∃ talk exchange action reason,
    talks.getLast? = some talk ∧ talk.exchanges.getLast? = some exchange ∧
    exchange.failure? = some (action, reason) ∧ error = told action talk.item.entry reason

/-- Whatever a server answers, a restore keeps to the protocol: cluster-scoped items come before the
others, one conversation about each, up to the first failure. -/
theorem applyItems_protocol (applier : Applier σ) {cancelled : σ → Bool × σ}
    (never : ∀ s, (cancelled s).1 = false) (items : List RestoreItem) (s : σ) :
    let run := applier.recorded.applyItems (beside cancelled) items (s, [])
    applier.applyItems cancelled items s = (run.1, run.2.1) ∧
      ∃ talks, Protocol items run.2.2 run.1 talks := by
  intro run
  obtain ⟨talks, within, ends, recorded⟩ :=
    applier.applyInOrder_talks never ⟨0, 0⟩ (Applier.schedule items) s []
  have same : run = ((applier.applyItems cancelled items s).1,
      (applier.applyItems cancelled items s).2, talks.flatMap Talk.exchanges) := by
    simpa [run, Applier.applyItems] using recorded
  rw [same]
  have sent : (talks.flatMap Talk.exchanges).filterMap Exchange.sent? =
      talks.map fun talk => (talk.item.entry.type, talk.item.entry.ns, talk.item.object) := by
    rw [List.filterMap_flatMap, funext Talk.sent, List.map_eq_flatMap]
  change Applier.Ends _ _ talks (applier.applyItems cancelled items s).1 at ends
  refine ⟨rfl, talks, ?_⟩
  cases outcome : (applier.applyItems cancelled items s).1 with
  | ok summary =>
    rw [outcome] at ends
    have fine := ends.fine
    obtain ⟨total, created⟩ := ends.counts
    refine ⟨rfl, Applier.schedule_eq items ▸ within, sent, ?_, ?_, ?_, by simp⟩
    · intro before exchange after split failed
      have inside : exchange ∈ talks.flatMap Talk.exchanges := by
        change talks.flatMap Talk.exchanges = _ at split
        simp [split]
      exact absurd (fine exchange inside) failed
    · exact iff_of_true ⟨summary, rfl⟩ fine
    · intro summary same
      obtain rfl := Except.ok.inj same
      refine ⟨?_, by rwa [RestoreItem.length_schedule] at total, created⟩
      rw [← RestoreItem.length_schedule items, ← ends.1, List.length_map]
  | error error =>
    rw [outcome] at ends
    obtain ⟨before, talk, exchange, action, reason, trace, fine, isLast, isLastCall, failure, rfl⟩ :=
      ends.failed
    refine ⟨rfl, Applier.schedule_eq items ▸ within, sent, ?_, ?_, by simp, ?_⟩
    · intro earlier other after split failed
      rw [trace] at split
      rcases List.append_eq_append_iff.mp split with ⟨gap, rfl, rest⟩ | ⟨gap, rfl, rest⟩
      · cases gap with
        | nil => exact (List.cons.inj rest).2.symm
        | cons first gap => simp at rest
      · cases gap with
        | nil => exact (List.cons.inj rest).2
        | cons first gap =>
          obtain ⟨rfl, _⟩ := List.cons.inj rest
          exact absurd (fine other (by simp)) failed
    · refine iff_of_false (by simp) fun all => ?_
      have spared := all exchange (by simp [trace])
      rw [failure] at spared
      cases spared
    · intro error same
      obtain rfl := Except.error.inj same
      exact ⟨talk, exchange, action, reason, isLast, isLastCall, failure, rfl⟩

/-- A server that creates its first object and then holds that every object exists. -/
def stubborn : Applier Nat where
  create type _ object calls :=
    (if calls = 0 then .ok object else .error (.alreadyExists type.resource ""), calls + 1)
  get _ _ _ calls :=
    (.ok [("metadata", .object [("resourceVersion", .string (toString calls))])], calls + 1)
  update type _ _ calls := (.error (.alreadyExists type.resource ""), calls + 1)

/-- An update that is told that its object exists has failed. -/
theorem applyItems_protocol_stubborn : ∃ talks,
    stubborn.applyItems uncancelled MemoryCluster.lateNamespace 0 =
      (.error (.apply .update "web" "settings" (.alreadyExists "configmaps" "")), 4) ∧
    Protocol MemoryCluster.lateNamespace
      [.create .namespaces none [("metadata", .object [("name", .string "web")])]
          (.ok [("metadata", .object [("name", .string "web")])]),
        .create ⟨"", "v1", "configmaps"⟩ (some "web")
          [("metadata", .object [("name", .string "settings"), ("namespace", .string "web")])]
          (.error (.alreadyExists "configmaps" "")),
        .get ⟨"", "v1", "configmaps"⟩ (some "web") "settings"
          (.ok [("metadata", .object [("resourceVersion", .string "2")])]),
        .update ⟨"", "v1", "configmaps"⟩ (some "web")
          [("metadata", .object [("name", .string "settings"), ("namespace", .string "web"),
            ("resourceVersion", .string "2")])]
          (.error (.alreadyExists "configmaps" ""))]
      (.error (.apply .update "web" "settings" (.alreadyExists "configmaps" ""))) talks := by
  obtain ⟨_, talks, keeps⟩ := applyItems_protocol stubborn
    (show ∀ calls, (uncancelled calls).1 = false from fun _ => rfl) MemoryCluster.lateNamespace 0
  exact ⟨talks, rfl, keeps⟩

end ClusterArchive
