import ClusterArchive.Destination
import ClusterArchive.Proofs.Entry
import ClusterArchive.Proofs.Store
import Mathlib.Logic.Relation

/-! Host destinations stay in their sandbox. The segments of a request are what is left when every `..`
has taken back the segment before it, however that is done, and a path under a root has the parts of
the root before them. -/

namespace ClusterArchive

namespace Path

open Text

/-- All parts of a path: that it starts at the top or at a point, and its steps. -/
def parts (path : String) : List String :=
  (if isAbsolute path then ["/"] else if (splitSlash path).head? = some "." then ["."] else []) ++
    components path

theorem head?_splitSlash_append (before after : String) :
    (splitSlash (before ++ "/" ++ after)).head? = (splitSlash before).head? := by
  obtain ⟨part, rest, shape⟩ := List.exists_cons_of_ne_nil
    (show splitSlash before ≠ [] by simp [splitSlash, split_ne_nil])
  rw [splitSlash_append, shape]
  rfl

theorem parts_join (directory : String) {steps : List String} (some_ : steps ≠ [])
    (clean : ∀ step ∈ steps, IsStep step) :
    parts (join directory ("/".intercalate steps)) = parts directory ++ steps := by
  have relative := isAbsolute_intercalate clean
  rw [parts, isAbsolute_join relative, components_join relative, components_intercalate clean, parts,
    List.append_assoc]
  have point : (splitSlash (join directory ("/".intercalate steps))).head? = some "." ↔
      (splitSlash directory).head? = some "." := by
    rcases join_shape directory relative with ⟨rfl, same⟩ | ⟨start, rfl | rfl, _, same⟩
    · obtain ⟨step, rest, rfl⟩ := List.exists_cons_of_ne_nil some_
      rw [same, splitSlash_intercalate some_ fun step member => (clean step member).2.2]
      simpa [splitSlash, split] using (clean step List.mem_cons_self).2.1
    · rw [same, head?_splitSlash_append]
    · rw [same, head?_splitSlash_append, ← String.append_empty (s := start ++ "/"),
        head?_splitSlash_append]
  simp only [point]

end Path

open Text ClusterArchive.Path

/-! What is left of a request. -/

/-- The segments of a request that lead somewhere, or back. -/
def requestSteps (requested : String) : List String :=
  ((split (fun c => c == '/' || c == '\\') requested.toList).map String.ofList).filter
    fun segment => segment ≠ "" && segment ≠ "."

/-- One step back: it takes back the segment right before it, or nothing where nothing is before it. -/
inductive Cancels : List String → List String → Prop
  | back (before after : List String) {name : String} (down : name ≠ "..") :
      Cancels (before ++ name :: ".." :: after) (before ++ after)
  | top (after : List String) : Cancels (".." :: after) after

/-- What is left when no step back remains. -/
def Leaves (steps left : List String) : Prop :=
  Relation.ReflTransGen Cancels steps left ∧ ".." ∉ left

def heed (clean : List String) (step : String) : List String :=
  if step = ".." then clean.tail else step :: clean

theorem sandboxSegments_eq (requested : String) :
    sandboxSegments requested = ((requestSteps requested).foldl heed []).reverse := by
  rw [sandboxSegments, requestSteps, List.foldl_filter]
  congr 2
  funext clean step
  have kept : ((step ≠ "" && step ≠ ".") = true) ↔ ¬(step = "" ∨ step = ".") := by simp
  simp only [heed, kept, ite_not]

theorem Cancels.foldl_heed {steps others : List String} (cancels : Cancels steps others) :
    steps.foldl heed [] = others.foldl heed [] := by
  cases cancels with
  | back before after down => simp [heed, down]
  | top => rfl

theorem Cancels.append {steps others : List String} (cancels : Cancels steps others)
    (more : List String) : Cancels (steps ++ more) (others ++ more) := by
  cases cancels with
  | back before after down => simpa using Cancels.back before (after ++ more) down
  | top => exact .top _

theorem foldl_heed_of_down {steps : List String} (down : ".." ∉ steps) (clean : List String) :
    steps.foldl heed clean = steps.reverse ++ clean :=
  foldl_push (fun _ _ member => if_neg (ne_of_mem_of_not_mem member down)) clean

theorem leaves_foldl (steps : List String) : Leaves steps (steps.foldl heed []).reverse := by
  induction steps using List.reverseRecOn with
  | nil => exact ⟨.refl, by simp⟩
  | append_singleton steps step ih =>
    obtain ⟨reached, down⟩ := ih
    have lifted : Relation.ReflTransGen Cancels (steps ++ [step])
        ((steps.foldl heed []).reverse ++ [step]) :=
      reached.lift (· ++ [step]) fun _ _ cancels => cancels.append [step]
    rw [List.foldl_append, List.foldl_cons, List.foldl_nil, heed]
    by_cases up : step = ".."
    · subst up
      rw [if_pos rfl]
      cases left : steps.foldl heed [] with
      | nil =>
        rw [left] at lifted
        exact ⟨lifted.tail (.top []), by simp⟩
      | cons name rest =>
        rw [left, List.reverse_cons] at lifted down
        rw [List.append_assoc] at lifted
        have straight : name ≠ ".." ∧ ".." ∉ rest := by simpa [eq_comm, and_comm] using down
        exact ⟨lifted.tail (by simpa using Cancels.back rest.reverse [] straight.1), by simpa using straight.2⟩
    · rw [if_neg up, List.reverse_cons]
      exact ⟨lifted, by simpa [up, eq_comm] using down⟩

/-- However the steps back are taken, the same is left. -/
theorem leaves_iff (steps left : List String) :
    Leaves steps left ↔ left = (steps.foldl heed []).reverse := by
  constructor
  · rintro ⟨reached, down⟩
    have same : steps.foldl heed [] = left.foldl heed [] := by
      clear down
      induction reached with
      | refl => rfl
      | tail _ last ih => rw [ih, last.foldl_heed]
    rw [same, foldl_heed_of_down down]
    simp
  · rintro rfl
    exact leaves_foldl steps

theorem leaves_requestSteps (requested : String) (left : List String) :
    Leaves (requestSteps requested) left ↔ left = sandboxSegments requested := by
  rw [sandboxSegments_eq, leaves_iff]

theorem mem_heed {steps : List String} {name : String} (member : name ∈ steps.foldl heed []) :
    name ∈ steps := by
  induction steps using List.reverseRecOn with
  | nil => exact member
  | append_singleton steps step ih =>
    rw [List.foldl_append, List.foldl_cons, List.foldl_nil, heed] at member
    split at member
    next => exact List.mem_append_left _ (ih (List.mem_of_mem_tail member))
    next =>
      rcases List.mem_cons.mp member with rfl | earlier
      · simp
      · exact List.mem_append_left _ (ih earlier)

/-- What is left of a request are segments that stand for themselves. -/
theorem isSegment_of_mem_sandboxSegments {requested segment : String}
    (member : segment ∈ sandboxSegments requested) : IsSegment segment := by
  have down : segment ≠ ".." := by
    rintro rfl
    exact ((leaves_requestSteps requested _).mpr rfl).2 member
  rw [sandboxSegments_eq, List.mem_reverse] at member
  obtain ⟨isPart, kept⟩ := List.mem_filter.mp (mem_heed member)
  obtain ⟨chars, isIn, rfl⟩ := List.mem_map.mp isPart
  simp only [Bool.and_eq_true, decide_eq_true_eq, ne_eq] at kept
  have plain := separates_of_mem_split isIn
  refine ⟨kept.1, kept.2, down, fun slash => ?_, fun backslash => ?_⟩
  · rw [String.toList_ofList] at slash
    simpa using plain _ slash
  · rw [String.toList_ofList] at backslash
    simpa using plain _ backslash

/-! Requests that lead to the same place. -/

theorem requestSteps_append (before : String) {c : Char} (separator : c = '/' ∨ c = '\\')
    (after : String) : requestSteps (before ++ String.singleton c ++ after) =
      requestSteps before ++ requestSteps after := by
  have separates : (c == '/' || c == '\\') = true := by simpa using separator
  rw [requestSteps, String.toList_append, String.toList_append, String.toList_singleton,
    List.append_assoc, List.singleton_append, split_append _ separates, List.map_append,
    List.filter_append]
  rfl

theorem sandboxSegments_lead (lead : String) (nowhere : (requestSteps lead).foldl heed [] = [])
    {c : Char} (separator : c = '/' ∨ c = '\\') (requested : String) :
    sandboxSegments (lead ++ String.singleton c ++ requested) = sandboxSegments requested := by
  rw [sandboxSegments_eq, requestSteps_append _ separator, List.foldl_append, nowhere,
    sandboxSegments_eq]

theorem sandboxSegments_leads {leads : List String}
    (back : ∀ lead ∈ leads, lead = "/" ∨ lead = "./" ∨ lead = "../") (requested : String) :
    sandboxSegments (leads.foldr (· ++ ·) requested) = sandboxSegments requested := by
  induction leads with
  | nil => rfl
  | cons lead rest ih =>
    obtain ⟨first, others⟩ := List.forall_mem_cons.mp back
    rw [List.foldr_cons, ← ih others]
    rcases first with rfl | rfl | rfl
    · exact sandboxSegments_lead "" (by decide) (.inl rfl) _
    · exact sandboxSegments_lead "." (by decide) (.inl rfl) _
    · exact sandboxSegments_lead ".." (by decide) (.inl rfl) _

/-- What is left of a request is a request that nothing is taken from. -/
theorem sandboxSegments_intercalate {segments : List String}
    (clean : ∀ segment ∈ segments, IsSegment segment) :
    sandboxSegments ("/".intercalate segments) = segments := by
  have steps : requestSteps ("/".intercalate segments) = segments := by
    induction segments with
    | nil => decide
    | cons segment rest ih =>
      obtain ⟨here, later⟩ := List.forall_mem_cons.mp clean
      have alone : requestSteps segment = [segment] := by
        have solid : ∀ c ∈ segment.toList, (c == '/' || c == '\\') = false := by
          intro c member
          rw [Bool.or_eq_false_iff, beq_eq_false_iff_ne, beq_eq_false_iff_ne]
          exact ⟨fun is => here.slash (is ▸ member), fun is => here.backslash (is ▸ member)⟩
        rw [requestSteps, split_eq_singleton solid]
        simp [here.nonempty, here.here]
      cases rest with
      | nil => rw [String.intercalate_singleton, alone]
      | cons next rest =>
        have slash : "/" = String.singleton '/' := rfl
        rw [String.intercalate_cons_cons]
        conv => lhs; rw [slash]
        rw [requestSteps_append _ (.inl rfl), alone, ← slash, ih later, List.singleton_append]
  have down : ".." ∉ segments := fun member => (clean _ member).up rfl
  rw [sandboxSegments_eq, steps, foldl_heed_of_down down]
  simp

/-- The path of a request: the root alone, or its segments behind the root. -/
theorem parts_sandboxPath (root requested : String) :
    parts (sandboxPath root requested) = parts root ++ sandboxSegments requested := by
  have clean : ∀ segment ∈ sandboxSegments requested, IsStep segment :=
    fun segment member => (isSegment_of_mem_sandboxSegments member).isStep
  unfold sandboxPath
  split
  next empty => rw [empty, List.append_nil]
  next segments some_ => exact parts_join root some_ clean

structure Sandboxed (root requested path : String) (segments : List String) : Prop where
  parts : parts path = parts root ++ segments
  clean : ∀ segment ∈ segments, IsSegment segment
  /-- The segments are what is left of the request, in whatever order its steps back are taken. -/
  left : ∀ left, Leaves (requestSteps requested) left ↔ left = segments
  nothing : segments = [] → path = root
  again : sandboxPath root ("/".intercalate segments) = path
  leads : ∀ leads : List String, (∀ lead ∈ leads, lead = "/" ∨ lead = "./" ∨ lead = "../") →
    sandboxPath root (leads.foldr (· ++ ·) requested) = path

theorem sandboxed (root requested : String) :
    Sandboxed root requested (sandboxPath root requested) (sandboxSegments requested) where
  parts := parts_sandboxPath root requested
  clean := fun _ => isSegment_of_mem_sandboxSegments
  left := leaves_requestSteps requested
  nothing := by
    intro empty
    rw [sandboxPath, empty]
  again := by
    rw [sandboxPath, sandboxSegments_intercalate fun _ => isSegment_of_mem_sandboxSegments, sandboxPath]
  leads := by
    intro leads back
    rw [sandboxPath, sandboxSegments_leads back, sandboxPath]

/-- Where a destination is, if it is one: where its text says, or in the sandbox. -/
inductive Resolves (hostRoot text : String) : Except RunError String → Prop
  | refused (message : String)
      (other : trim text = "" ∨
        "://".toList <:+: (trim text).toList ∧ ∀ request, trim text ≠ "host://" ++ request) :
      Resolves hostRoot text (.error (.validation message))
  | literal (plain : ¬"://".toList <:+: (trim text).toList) : Resolves hostRoot text (.ok (trim text))
  | host {request path : String} {segments : List String} (scheme : trim text = "host://" ++ request)
      (sandboxed : Sandboxed hostRoot request path segments) : Resolves hostRoot text (.ok path)

theorem Destination.resolves (hostRoot text : String) :
    Resolves hostRoot text ((Destination.parse text).map (Destination.resolve hostRoot)) := by
  unfold Destination.parse
  by_cases empty : trim text = ""
  · rw [if_pos empty]
    exact .refused _ (.inl empty)
  · rw [if_neg empty]
    cases host : stripPrefix? Destination.hostScheme (trim text) with
    | some request => exact .host (stripPrefix?_eq_some.mp host) (sandboxed hostRoot request)
    | none =>
      have other : ∀ request, trim text ≠ "host://" ++ request := by
        intro request same
        simp [stripPrefix?_eq_some.mpr same, Destination.hostScheme] at host
      have solid : "://".toList ≠ [] := by decide
      cases scheme : before? "://".toList (trim text).toList with
      | some front =>
        have occurs : "://".toList <:+: (trim text).toList := by
          apply Classical.not_not.mp
          rw [← before?_eq_none solid, scheme]
          simp
        exact .refused _ (.inr ⟨occurs, other⟩)
      | none => exact .literal ((before?_eq_none solid).mp scheme)

theorem parts_pathOf (store : Store) {name : String} (checked : Store.checkName name = .ok ()) :
    parts (store.pathOf name) = parts store.directory ++ [name] := by
  have step := (Store.checkName_step checked).1
  have joined := parts_join store.directory (List.cons_ne_nil name []) (List.forall_mem_singleton.mpr step)
  rwa [String.intercalate_singleton] at joined

/-- Host destinations lie in their sandbox, and archives right below their destination. -/
theorem sandbox_confines :
    (∀ root requested, ∃ segments,
      Sandboxed root requested (sandboxPath root requested) segments) ∧
    (∀ hostRoot text,
      Resolves hostRoot text ((Destination.parse text).map (Destination.resolve hostRoot))) ∧
    ∀ directory extension name, Store.checkName name = .ok () →
      parts (Store.pathOf ⟨directory, extension⟩ name) = parts directory ++ [name] :=
  ⟨fun root requested => ⟨_, sandboxed root requested⟩, Destination.resolves,
    fun directory extension _ checked => parts_pathOf ⟨directory, extension⟩ checked⟩

theorem sandbox_confines_traversal :
    sandboxPath "/srv/sandbox" "a\\../../.././etc//cron" = "/srv/sandbox/etc/cron" ∧
    Store.checkName "a.tar" = .ok () ∧
    parts (Store.pathOf ⟨"/srv/sandbox/etc/cron", "tar"⟩ "a.tar") =
      ["/", "srv", "sandbox", "etc", "cron", "a.tar"] := by
  have checked : Store.checkName "a.tar" = .ok () := by rfl
  have above : parts "/srv/sandbox/etc/cron" = ["/", "srv", "sandbox", "etc", "cron"] := by decide
  refine ⟨by decide, checked, ?_⟩
  rw [sandbox_confines.2.2 "/srv/sandbox/etc/cron" "tar" "a.tar" checked, above]
  rfl

end ClusterArchive
