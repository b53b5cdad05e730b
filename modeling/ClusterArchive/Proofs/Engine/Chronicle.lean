import ClusterArchive.Cluster.Memory
import ClusterArchive.Proofs.Engine.Watched

/-! The chronicle of a run: what was asked at which states, one question after the other. A token
that was raised stays so, and what is asked after that is asked at states in which it is raised. -/

namespace ClusterArchive

variable {σ : Type}

/-- Questions that were asked one after the other. Each was asked at the state that the one before
it left. -/
inductive Chronicle (answers : σ → Reply → σ → Prop) (start : σ) : σ → List (Moment σ) → Prop
  | start : Chronicle answers start start []
  | ask {s next : σ} {log : List (Moment σ)} {reply : Reply}
    (earlier : Chronicle answers start s log) (answered : answers s reply next) :
    Chronicle answers start next (log ++ [⟨reply, s⟩])

/-- A moment of an extended log is the new one, or was there before. -/
theorem concat_eq_split {α : Type} {log earlier later : List α} {last moment : α} :
    log ++ [last] = earlier ++ moment :: later ↔
      (log = earlier ∧ last = moment ∧ later = []) ∨
        ∃ rest, later = rest ++ [last] ∧ log = earlier ++ moment :: rest := by
  constructor
  · intro split
    rcases later.eq_nil_or_concat' with rfl | ⟨rest, other, rfl⟩
    · obtain ⟨same, one⟩ := List.append_inj' split rfl
      exact .inl ⟨same, (List.cons.inj one).1, rfl⟩
    · rw [← List.cons_append, ← List.append_assoc] at split
      obtain ⟨same, one⟩ := List.append_inj' split rfl
      obtain rfl := (List.cons.inj one).1
      exact .inr ⟨rest, rfl, same⟩
  · rintro (⟨rfl, rfl, rfl⟩ | ⟨rest, rfl, rfl⟩)
    · rfl
    · simp

namespace Chronicle

variable {answers : σ → Reply → σ → Prop} {start s : σ} {log earlier later : List (Moment σ)}
  {moment : Moment σ}

theorem split (chronicle : Chronicle answers start s (earlier ++ moment :: later)) :
    Chronicle answers start moment.state earlier ∧
      Chronicle answers moment.state s (moment :: later) := by
  generalize whole : earlier ++ moment :: later = log at chronicle
  induction chronicle generalizing later with
  | start => simp at whole
  | ask before answered ih =>
    rcases concat_eq_split.mp whole.symm with ⟨rfl, rfl, rfl⟩ | ⟨rest, rfl, same⟩
    · exact ⟨before, .ask .start answered⟩
    · obtain ⟨first, second⟩ := ih same.symm
      exact ⟨first, second.ask answered⟩

theorem answered (chronicle : Chronicle answers start s log) (member : moment ∈ log) :
    ∃ next, answers moment.state moment.reply next := by
  induction chronicle with
  | start => simp at member
  | ask before answered ih =>
    rcases List.mem_append.mp member with inside | last
    · exact ih inside
    · obtain rfl := List.mem_singleton.mp last
      exact ⟨_, answered⟩

theorem kept {P : σ → Prop} (keeps : ∀ s reply next, answers s reply next → P s → P next)
    (chronicle : Chronicle answers start s log) (holds : P start) :
    P s ∧ ∀ moment ∈ log, P moment.state := by
  induction chronicle with
  | start => exact ⟨holds, by simp⟩
  | ask before answered ih =>
    refine ⟨keeps _ _ _ answered ih.1, List.forall_mem_append.mpr ⟨ih.2, ?_⟩⟩
    simpa using ih.1

end Chronicle

/-- A token that was raised stays so, whatever is asked, and a check tells of it. -/
structure Sticky (raised : σ → Prop) (answers : σ → Reply → σ → Prop) : Prop where
  stays : ∀ s reply next, answers s reply next → raised s → raised next
  tells : ∀ s answer next, answers s (.check answer) next → raised s → answer = true

namespace Sticky

variable {raised : σ → Prop} {answers : σ → Reply → σ → Prop} {start s : σ}
  {log earlier later : List (Moment σ)} {moment : Moment σ}

theorem check (sticky : Sticky raised answers) (chronicle : Chronicle answers start s log)
    {answer : Bool} {state : σ} (member : ⟨.check answer, state⟩ ∈ log) (up : raised state) :
    answer = true := by
  obtain ⟨next, answered⟩ := chronicle.answered member
  exact sticky.tells _ _ _ answered up

/-- What comes after a moment at which the token is raised comes while it is raised. -/
theorem after (sticky : Sticky raised answers)
    (chronicle : Chronicle answers start s (earlier ++ moment :: later))
    (up : raised moment.state) : ∀ other ∈ moment :: later, raised other.state :=
  (chronicle.split.2.kept sticky.stays up).2

/-- Where a check is passed, the token was not raised, nor was it before. -/
theorem before (sticky : Sticky raised answers) {state : σ}
    (chronicle : Chronicle answers start s (earlier ++ ⟨.check false, state⟩ :: later)) :
    ¬raised state ∧ ∀ other ∈ earlier, ¬raised other.state := by
  have down : ¬raised state := by
    intro up
    have inside : ⟨.check false, state⟩ ∈ earlier ++ ⟨.check false, state⟩ :: later := by simp
    cases sticky.check chronicle inside up
  refine ⟨down, fun other member up => ?_⟩
  obtain ⟨front, rest, rfl⟩ := List.append_of_mem member
  rw [List.append_assoc, List.cons_append] at chronicle
  exact down (sticky.after chronicle up ⟨.check false, state⟩ (by simp))

end Sticky

/-! The chronicles of the runs. -/

inductive BackupAnswers (around : Surroundings σ) (discoverer : Discoverer σ) (lister : Lister σ) :
    σ → Reply → σ → Prop
  | time (s : σ) : BackupAnswers around discoverer lister s (.time (around.now s).1) (around.now s).2
  | check (s : σ) : BackupAnswers around discoverer lister s (.check (around.cancelled s).1)
    (around.cancelled s).2
  | discovery (s : σ) : BackupAnswers around discoverer lister s
    (.discovery (discoverer.discover s).1) (discoverer.discover s).2
  | listing (resource : Resource) (ns : Option String) (s : σ) :
    BackupAnswers around discoverer lister s (.listing resource ns (lister.list resource ns s).1)
      (lister.list resource ns s).2

inductive RestoreAnswers (around : Surroundings σ) (applier : Applier σ) : σ → Reply → σ → Prop
  | time (s : σ) : RestoreAnswers around applier s (.time (around.now s).1) (around.now s).2
  | check (s : σ) : RestoreAnswers around applier s (.check (around.cancelled s).1)
    (around.cancelled s).2
  | create (type : ResourceType) (ns : Option String) (object : Document) (s : σ) :
    RestoreAnswers around applier s
      (.exchange (.create type ns object (applier.create type ns object s).1))
      (applier.create type ns object s).2
  | get (type : ResourceType) (ns : Option String) (name : String) (s : σ) :
    RestoreAnswers around applier s (.exchange (.get type ns name (applier.get type ns name s).1))
      (applier.get type ns name s).2
  | update (type : ResourceType) (ns : Option String) (object : Document) (s : σ) :
    RestoreAnswers around applier s
      (.exchange (.update type ns object (applier.update type ns object s).1))
      (applier.update type ns object s).2

theorem Engine.Arises.chronicle {around : Surroundings σ} {discoverer : Discoverer σ}
    {lister : Lister σ} {start : σ} {s : σ × List (Moment σ)}
    (arises : Arises around.watched discoverer.watched lister.watched (start, []) s) :
    Chronicle (BackupAnswers around discoverer lister) start s.1 s.2 := by
  induction arises with
  | start => exact .start
  | now _ ih => exact ih.ask (.time _)
  | cancelled _ ih => exact ih.ask (.check _)
  | discover _ ih => exact ih.ask (.discovery _)
  | list resource ns _ ih => exact ih.ask (.listing resource ns _)

end ClusterArchive
