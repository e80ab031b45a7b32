import Mathlib.Data.List.Perm.Basic
import Testbed.Pool
import Testbed.Proofs.Procedure.History
/-!
# What a pool does

The calls of a pool are an interleaving of those of its tasks, each of which is followed to its end
(`run_leads`). Its outcome holds what the tasks gave, in whatever order, and whether one died. How
many workers there are, and how long the tasks take, decides between interleavings only.
-/

namespace Testbed

/-- A list made of the elements of several others, each of which keeps its order. -/
inductive Interleaving {α : Type} : List (List α) → List α → Prop
  | done {ls : List (List α)} : (∀ l ∈ ls, l = []) → Interleaving ls []
  | step {ls ms : List (List α)} {x : α} {l es : List α} :
      Interleaving (ls ++ l :: ms) es → Interleaving (ls ++ (x :: l) :: ms) (x :: es)

namespace Interleaving

variable {α : Type} {ls ms : List (List α)} {l es : List α}

theorem perm (h : Interleaving ls es) (p : ls.Perm ms) : Interleaving ms es := by
  induction h generalizing ms with
  | done empty => exact .done fun l hl => empty l (p.mem_iff.2 hl)
  | @step as bs x l es _ ih =>
    obtain ⟨cs, ds, rfl⟩ :=
      List.append_of_mem (p.mem_iff.1 (List.mem_append_right as List.mem_cons_self))
    have others : (as ++ bs).Perm (cs ++ ds) := by
      refine (List.perm_cons (x :: l)).1 ?_
      exact (List.perm_middle.symm.trans p).trans List.perm_middle
    refine .step (ih ?_)
    exact (List.perm_middle.trans (others.cons l)).trans List.perm_middle.symm

theorem cons_nil (h : Interleaving ls es) : Interleaving ([] :: ls) es := by
  induction h with
  | done empty => exact .done (by simpa using empty)
  | @step as _ _ _ _ _ ih => exact @step _ ([] :: as) _ _ _ _ ih

theorem append_nil (h : Interleaving ls es) : Interleaving (ls ++ [[]]) es :=
  h.cons_nil.perm (List.perm_append_singleton [] ls).symm

theorem prepend (h : Interleaving (ls ++ l :: ms) es) (before : List α) :
    Interleaving (ls ++ (before ++ l) :: ms) (before ++ es) := by
  induction before with
  | nil => exact h
  | cons x before ih => exact .step ih

theorem flatten (ls : List (List α)) : Interleaving ls ls.flatten := by
  induction ls with
  | nil => exact .done (by simp)
  | cons l ls ih => simpa using @prepend _ [] _ _ _ ih.cons_nil l

/-- Interleaving is a matter of order only. -/
theorem perm_flatten (h : Interleaving ls es) : es.Perm ls.flatten := by
  induction h with
  | done empty => rw [List.flatten_eq_nil_iff.2 empty]
  | @step as bs x l es _ ih =>
    have moved : (as ++ (x :: l) :: bs).flatten.Perm (x :: (as ++ l :: bs).flatten) := by
      simp only [List.flatten_append, List.flatten_cons, List.cons_append]
      exact List.perm_middle
    exact (ih.cons x).trans moved.symm

/-- Nothing is made up. -/
theorem mem (h : Interleaving ls es) {x : α} (hx : x ∈ es) : ∃ l ∈ ls, x ∈ l := by
  induction h with
  | done => simp at hx
  | @step as bs y l es _ ih =>
    rcases List.mem_cons.1 hx with rfl | hx
    · exact ⟨x :: l, by simp, by simp⟩
    · obtain ⟨k, hk, hxk⟩ := ih hx
      rcases List.mem_append.1 hk with hk | hk
      · exact ⟨k, by simp [hk], hxk⟩
      · rcases List.mem_cons.1 hk with rfl | hk
        · exact ⟨y :: k, by simp, by simp [hxk]⟩
        · exact ⟨k, by simp [hk], hxk⟩

/-- Nothing is left out. -/
theorem subset (h : Interleaving ls es) (hl : l ∈ ls) : l ⊆ es := by
  induction h generalizing l with
  | done empty =>
    rw [empty l hl]
    exact List.nil_subset _
  | @step as bs y k es _ ih =>
    rcases List.mem_append.1 hl with hl | hl
    · exact List.subset_cons_of_subset y (ih (by simp [hl]))
    · rcases List.mem_cons.1 hl with rfl | hl
      · exact List.cons_subset_cons y (ih (by simp))
      · exact List.subset_cons_of_subset y (ih (by simp [hl]))

end Interleaving

namespace Pool

open Procedure (Leads)

variable {I : Interface} {α : Type}

/-- The calls of a task and what it gave: nothing if it died. -/
abbrev Part (I : Interface) (α : Type) := List (Event I) × Option α

/-- The tasks were followed to their ends, in the given parts. -/
def Followed (tasks : List (Procedure I (Option α))) (parts : List (Part I α)) : Prop :=
  List.Forall₂ (fun task part => task.Leads part.1 part.2) tasks parts

theorem Followed.of_mem {tasks : List (Procedure I (Option α))} {parts : List (Part I α)}
    (h : Followed tasks parts) {part : Part I α} (mem : part ∈ parts) :
    ∃ task ∈ tasks, task.Leads part.1 part.2 := by
  unfold Followed at h
  induction h with
  | nil => cases mem
  | cons leads _ ih =>
    rcases List.mem_cons.1 mem with rfl | mem
    · exact ⟨_, List.mem_cons_self, leads⟩
    · obtain ⟨task, given, leads⟩ := ih mem
      exact ⟨task, List.mem_cons_of_mem _ given, leads⟩

/-- What the parts come to, on top of an earlier outcome. -/
structure Sums (before : Outcome α) (parts : List (Part I α)) (after : Outcome α) : Prop where
  completed : after.completed.Perm (before.completed ++ parts.filterMap (·.2))
  failed : after.failed = (before.failed || parts.any (·.2.isNone))

theorem Followed.perm {tasks tasks' : List (Procedure I (Option α))} {parts : List (Part I α)}
    (h : Followed tasks parts) (p : tasks'.Perm tasks) :
    ∃ parts', Followed tasks' parts' ∧ parts'.Perm parts :=
  List.perm_comp_forall₂ p h

theorem Sums.perm {before after : Outcome α} {parts parts' : List (Part I α)}
    (h : Sums before parts after) (p : parts'.Perm parts) : Sums before parts' after where
  completed := h.completed.trans ((p.symm.filterMap _).append_left _)
  failed := by rw [h.failed, p.any_eq]

/-- A task that ended is noted at once, or when all tasks have ended. -/
theorem Sums.cons {before after : Outcome α} {parts : List (Part I α)} {es : List (Event I)}
    {result : Option α} (h : Sums (before.note result) parts after) :
    Sums before ((es, result) :: parts) after := by
  cases result with
  | none => exact ⟨h.completed, by simpa [Outcome.note] using h.failed⟩
  | some a =>
    exact ⟨by simpa [Outcome.note, List.append_assoc] using h.completed,
      by simpa [Outcome.note] using h.failed⟩

theorem enqueue_rest_perm (t : Running I α) (others : List (Running I α)) :
    ((enqueue t others).map Running.rest).Perm (t.rest :: others.map Running.rest) :=
  (enqueue_perm t others).map Running.rest

/-- A schedule goes on with what is left after the first running task did something. -/
theorem schedule_induction
    {motive : Nat → List (Running I α) → List (Procedure I (Option α)) → Outcome α → Prop}
    (idle : ∀ clock waiting before, motive clock [] waiting before)
    (drained : ∀ clock ready result others before,
      motive ready others [] (before.note result) →
      motive clock (⟨ready, .done result⟩ :: others) [] before)
    (refilled : ∀ clock ready result others task waiting before,
      motive ready (enqueue ⟨ready, task⟩ others) waiting (before.note result) →
      motive clock (⟨ready, .done result⟩ :: others) (task :: waiting) before)
    (called : ∀ clock ready c next others waiting before,
      (∀ a d, motive ready (⟨ready, next a d⟩ :: others) waiting before) →
      motive clock (⟨ready, .call c next⟩ :: others) waiting before)
    (paused : ∀ clock ready d rest others waiting before,
      motive ready (enqueue ⟨ready + d.nanos, rest⟩ others) waiting before →
      motive clock (⟨ready, .pause d rest⟩ :: others) waiting before)
    (told : ∀ clock ready next others waiting before,
      (∀ t, motive ready (⟨ready, next t⟩ :: others) waiting before) →
      motive clock (⟨ready, .clock next⟩ :: others) waiting before)
    (clock : Nat) (running : List (Running I α)) (waiting : List (Procedure I (Option α)))
    (before : Outcome α) : motive clock running waiting before := by
  let rec go (clock : Nat) (running : List (Running I α))
      (waiting : List (Procedure I (Option α))) (before : Outcome α) :
      motive clock running waiting before :=
    match running, waiting with
    | [], waiting => idle clock waiting before
    | ⟨ready, .done result⟩ :: others, [] =>
      drained clock ready result others before (go ready others [] (before.note result))
    | ⟨ready, .done result⟩ :: others, task :: waiting =>
      refilled clock ready result others task waiting before
        (go ready (enqueue ⟨ready, task⟩ others) waiting (before.note result))
    | ⟨ready, .call c next⟩ :: others, waiting =>
      called clock ready c next others waiting before
        fun a d => go ready (⟨ready, next a d⟩ :: others) waiting before
    | ⟨ready, .pause d rest⟩ :: others, waiting =>
      paused clock ready d rest others waiting before
        (go ready (enqueue ⟨ready + d.nanos, rest⟩ others) waiting before)
    | ⟨ready, .clock next⟩ :: others, waiting =>
      told clock ready next others waiting before
        fun t => go ready (⟨ready, next t⟩ :: others) waiting before
  termination_by load running waiting
  decreasing_by
    · exact load_lt_of_count (by simp [load])
    · exact load_lt_of_count (by simp [load, length_enqueue])
    · exact load_lt_of_advance (by simp [load])
        ⟨_, _, others.map Running.rest, .refl _, .refl _, .answered c next a d⟩
    · exact load_lt_of_advance (by simp [load, length_enqueue])
        ⟨_, _, others.map Running.rest, .refl _, (enqueue_perm _ others).map Running.rest,
          .resumed d rest⟩
    · exact load_lt_of_advance (by simp [load])
        ⟨_, _, others.map Running.rest, .refl _, .refl _, .told next t⟩
  exact go clock running waiting before

theorem schedule_leads {clock : Nat} {running : List (Running I α)}
    {waiting : List (Procedure I (Option α))} {before after : Outcome α} {es : List (Event I)}
    (busy : running = [] → waiting = [])
    (h : (schedule clock running waiting before).Leads es after) :
    ∃ parts, Followed (running.map Running.rest ++ waiting) parts ∧
      Interleaving (parts.map (·.1)) es ∧ Sums before parts after := by
  induction clock, running, waiting, before using schedule_induction generalizing es with
  | idle clock waiting before =>
    rw [schedule] at h
    obtain ⟨rfl, rfl⟩ := Procedure.leads_pure.1 h
    refine ⟨[], ?_, .done (by simp), ⟨by simp, by simp⟩⟩
    rw [busy rfl]
    exact .nil
  | drained clock ready result others before ih =>
    rw [schedule, Procedure.leads_after] at h
    obtain ⟨parts, followed, interleaved, sums⟩ := ih (fun _ => rfl) h
    exact ⟨([], result) :: parts, .cons (.done result) followed, interleaved.cons_nil, sums.cons⟩
  | refilled clock ready result others task waiting before ih =>
    rw [schedule, Procedure.leads_after] at h
    obtain ⟨parts', followed', interleaved, sums⟩ :=
      ih (fun none => absurd (congrArg List.length none) (by simp [length_enqueue])) h
    have order : (others.map Running.rest ++ task :: waiting).Perm
        ((enqueue ⟨ready, task⟩ others).map Running.rest ++ waiting) :=
      List.perm_middle.trans ((enqueue_rest_perm ⟨ready, task⟩ others).append_right waiting).symm
    obtain ⟨parts, followed, p⟩ := followed'.perm order
    exact ⟨([], result) :: parts, .cons (.done result) followed,
      (interleaved.perm (p.symm.map _)).cons_nil, (sums.perm p).cons⟩
  | called clock ready c next others waiting before ih =>
    rw [schedule, Procedure.leads_after] at h
    cases h with
    | @call _ _ a d es _ h =>
      obtain ⟨parts, followed, interleaved, sums⟩ := ih a d (by simp) h
      cases followed with
      | @cons _ part _ parts first others_followed =>
        exact ⟨(⟨c, a⟩ :: part.1, part.2) :: parts, .cons (.call first) others_followed,
          @Interleaving.step _ [] _ _ _ _ interleaved, ⟨sums.completed, sums.failed⟩⟩
  | paused clock ready d rest others waiting before ih =>
    rw [schedule, Procedure.leads_after] at h
    obtain ⟨parts', followed', interleaved, sums⟩ :=
      ih (fun none => absurd (congrArg List.length none) (by simp [length_enqueue])) h
    obtain ⟨parts, followed, p⟩ := followed'.perm
      ((enqueue_rest_perm ⟨ready + d.nanos, rest⟩ others).append_right waiting).symm
    cases followed with
    | cons first others_followed =>
      exact ⟨_, .cons (.pause first) others_followed, interleaved.perm (p.symm.map _),
        sums.perm p⟩
  | told clock ready next others waiting before ih =>
    rw [schedule, Procedure.leads_after] at h
    cases h with
    | @clock _ t _ _ h =>
      obtain ⟨parts, followed, interleaved, sums⟩ := ih t (by simp) h
      cases followed with
      | cons first others_followed =>
        exact ⟨_, .cons (.clock first) others_followed, interleaved, sums⟩

theorem run_leads {workers : Nat} {tasks : List (Procedure I (Option α))} {outcome : Outcome α}
    {es : List (Event I)} (h : (run workers tasks).Leads es outcome) :
    ∃ parts, Followed tasks parts ∧ Interleaving (parts.map (·.1)) es ∧
      Sums .empty parts outcome := by
  have busy : (tasks.take (max workers 1)).map (Running.mk 0) = [] →
      tasks.drop (max workers 1) = [] := by
    intro none
    have : tasks = [] := by
      simpa [List.take_eq_nil_iff] using none
    simp [this]
  simpa [Function.comp_def] using schedule_leads busy h

end Pool

end Testbed
