import Mathlib.Data.List.Induction

/-!
# Runs of a step function

A system is a step function on a state type and an event type. A run is a list
of events; the environment chooses it, so a statement about every list of
events is a statement about every reachable state.

`Along` restricts a run by a condition on each event in the state in which it
is taken. `run_invariant` is the induction that every safety result uses.
-/

namespace UntitledGame.Lib.Runs

variable {σ ε : Type*} (step : σ → ε → σ)

/-- The state after a list of events. -/
def run (s : σ) (events : List ε) : σ := events.foldl step s

@[simp] theorem run_nil (s : σ) : run step s [] = s := rfl

@[simp] theorem run_cons (s : σ) (e : ε) (events : List ε) :
    run step s (e :: events) = run step (step s e) events := rfl

theorem run_append (s : σ) (pre post : List ε) :
    run step s (pre ++ post) = run step (run step s pre) post :=
  List.foldl_append

@[simp] theorem run_concat (s : σ) (pre : List ε) (e : ε) :
    run step s (pre ++ [e]) = step (run step s pre) e :=
  run_append step s pre [e]

/-- Every event of the run meets `ok` in the state in which it is taken. -/
def Along (ok : σ → ε → Prop) : σ → List ε → Prop
  | _, [] => True
  | s, e :: events => ok s e ∧ Along ok (step s e) events

/-- Evaluating the condition along a concrete run. -/
instance decidableAlong (ok : σ → ε → Prop) [∀ s e, Decidable (ok s e)] :
    ∀ (s : σ) (events : List ε), Decidable (Along step ok s events)
  | _, [] => inferInstanceAs (Decidable True)
  | s, e :: events =>
      have := decidableAlong ok (step s e) events
      inferInstanceAs (Decidable (_ ∧ _))

variable {step}

theorem along_of_forall {ok : ε → Prop} {events : List ε} (h : ∀ e ∈ events, ok e) (s : σ) :
    Along step (fun _ e => ok e) s events := by
  induction events generalizing s with
  | nil => trivial
  | cons e events ih => exact ⟨h e (by simp), ih (fun d hd => h d (by simp [hd])) _⟩

/-- A condition along a run splits where the run is split. -/
theorem along_append {ok : σ → ε → Prop} {s : σ} {pre post : List ε} :
    Along step ok s (pre ++ post) ↔ Along step ok s pre ∧ Along step ok (run step s pre) post := by
  induction pre generalizing s with
  | nil => exact (iff_of_eq (true_and _)).symm
  | cons e pre ih =>
      constructor
      · rintro ⟨he, hrest⟩
        exact ⟨⟨he, (ih.mp hrest).1⟩, (ih.mp hrest).2⟩
      · rintro ⟨⟨he, hpre⟩, hpost⟩
        exact ⟨he, ih.mpr ⟨hpre, hpost⟩⟩

theorem along_concat {ok : σ → ε → Prop} {s : σ} {pre : List ε} {e : ε} :
    Along step ok s (pre ++ [e]) ↔ Along step ok s pre ∧ ok (run step s pre) e := by
  rw [along_append]
  exact and_congr_right' (iff_of_eq (and_true _))

/-- What holds at the start and is kept by every step that meets the condition holds at the
end of every run whose steps all meet it. -/
theorem run_invariant {Inv : σ → Prop} {ok : σ → ε → Prop}
    (hstep : ∀ s e, Inv s → ok s e → Inv (step s e)) {s : σ} {events : List ε}
    (hs : Inv s) (h : Along step ok s events) : Inv (run step s events) := by
  induction events generalizing s with
  | nil => exact hs
  | cons e events ih => exact ih (hstep s e hs h.1) h.2

/-- The same in a run of legal events. -/
theorem run_invariant_of_legal {Inv : σ → Prop} {ok : σ → ε → Prop} {legal : ε → Prop}
    (hstep : ∀ s e, legal e → Inv s → ok s e → Inv (step s e)) {s : σ} {events : List ε}
    (hs : Inv s) (hlegal : ∀ e ∈ events, legal e) (h : Along step ok s events) :
    Inv (run step s events) := by
  induction events generalizing s with
  | nil => exact hs
  | cons e events ih =>
      exact ih (hstep s e (hlegal e List.mem_cons_self) hs h.1)
        (fun d hd => hlegal d (List.mem_cons_of_mem e hd)) h.2

/-- What every step keeps. -/
theorem run_preserves {Inv : σ → Prop} (hstep : ∀ s e, Inv s → Inv (step s e)) {s : σ}
    (hs : Inv s) (events : List ε) : Inv (run step s events) := by
  induction events generalizing s with
  | nil => exact hs
  | cons e events ih => exact ih (hstep s e hs)

/-- What no step changes. -/
theorem run_frame {α : Type*} {f : σ → α} (hstep : ∀ s e, f (step s e) = f s) (s : σ)
    (events : List ε) : f (run step s events) = f s := by
  induction events generalizing s with
  | nil => rfl
  | cons e events ih =>
      rw [run_cons, ih]
      exact hstep s e

/-- What holds of the empty history and is kept by every step that meets the condition. -/
theorem history_invariant {Inv : List ε → Prop} {ok : σ → ε → Prop} {s : σ} (hs : Inv [])
    (hstep : ∀ pre e, Inv pre → ok (run step s pre) e → Inv (pre ++ [e])) {events : List ε}
    (h : Along step ok s events) : Inv events := by
  induction events using List.reverseRecOn with
  | nil => exact hs
  | append_singleton pre e ih =>
      obtain ⟨hpre, he⟩ := along_concat.mp h
      exact hstep pre e (ih hpre) he

/-- Where a step that breaks the condition also breaks the property, the runs with the property in
every history are exactly those whose steps all meet the condition. -/
theorem histories_iff_along {Inv P : List ε → Prop} {ok : σ → ε → Prop} {s : σ} (hs : Inv [])
    (hstep : ∀ pre e, Inv pre → ok (run step s pre) e → Inv (pre ++ [e]))
    (hback : ∀ pre e, Inv pre → P (pre ++ [e]) → ok (run step s pre) e)
    (hP : ∀ pre, Inv pre → P pre) (events : List ε) :
    (∀ pre, pre <+: events → P pre) ↔ Along step ok s events := by
  constructor
  · intro h
    induction events using List.reverseRecOn with
    | nil => trivial
    | append_singleton events e ih =>
        have hevents := ih fun pre hpre => h pre (hpre.trans (List.prefix_append events [e]))
        have hinv := history_invariant hs hstep hevents
        exact along_concat.mpr ⟨hevents, hback events e hinv (h _ (List.prefix_refl _))⟩
  · rintro h pre ⟨rest, rfl⟩
    exact hP pre (history_invariant hs hstep (along_append.mp h).1)

/-- The same for a property of the state, in runs of legal events. -/
theorem always_iff_along_of_legal {Inv P : σ → Prop} {ok : σ → ε → Prop} {legal : ε → Prop}
    (hstep : ∀ s e, legal e → Inv s → ok s e → Inv (step s e))
    (hback : ∀ s e, legal e → Inv s → P (step s e) → ok s e) (hP : ∀ s, Inv s → P s) {s : σ}
    (hs : Inv s) {events : List ε} (hlegal : ∀ e ∈ events, legal e) :
    (∀ pre, pre <+: events → P (run step s pre)) ↔ Along step ok s events := by
  induction events generalizing s with
  | nil =>
      refine iff_of_true (fun pre hpre => ?_) trivial
      rw [List.prefix_nil.mp hpre]
      exact hP s hs
  | cons e events ih =>
      have he := hlegal e List.mem_cons_self
      have hrest : ∀ d ∈ events, legal d := fun d hd => hlegal d (List.mem_cons_of_mem e hd)
      constructor
      · intro h
        have hok := hback s e he hs (h [e] (List.cons_prefix_cons.mpr ⟨rfl, List.nil_prefix⟩))
        refine ⟨hok, (ih (hstep s e he hs hok) hrest).mp fun pre hpre => ?_⟩
        exact h (e :: pre) (List.cons_prefix_cons.mpr ⟨rfl, hpre⟩)
      · rintro ⟨hok, halong⟩ pre hpre
        cases pre with
        | nil => exact hP s hs
        | cons d pre =>
            obtain ⟨rfl, hlater⟩ := List.cons_prefix_cons.mp hpre
            exact (ih (hstep s d he hs hok) hrest).mpr halong pre hlater

/-- The same in any run. -/
theorem always_iff_along {Inv P : σ → Prop} {ok : σ → ε → Prop} {s : σ} (hs : Inv s)
    (hstep : ∀ s e, Inv s → ok s e → Inv (step s e)) (hback : ∀ s e, Inv s → P (step s e) → ok s e)
    (hP : ∀ s, Inv s → P s) (events : List ε) :
    (∀ pre, pre <+: events → P (run step s pre)) ↔ Along step ok s events := by
  have hlegal : ∀ e ∈ events, (fun _ => True) e := fun _ _ => trivial
  exact always_iff_along_of_legal (fun s e _ => hstep s e) (fun s e _ => hback s e) hP hs hlegal

/-- Where the condition decides what a step makes of the property, it decides what a run makes of
it. -/
theorem run_iff_along (Inv P : σ → Prop) {ok : σ → ε → Prop}
    (hkeep : ∀ s e, Inv s → Inv (step s e))
    (hstep : ∀ s e, Inv s → (P (step s e) ↔ P s ∧ ok s e)) {s : σ} (hs : Inv s)
    (events : List ε) : P (run step s events) ↔ P s ∧ Along step ok s events := by
  induction events generalizing s with
  | nil => exact (iff_of_eq (and_true _)).symm
  | cons e events ih => rw [run_cons, ih (hkeep s e hs), hstep s e hs, and_assoc, Along]

/-- The same for a property of each step, given its history, that the condition decides. -/
theorem steps_iff_along {Inv : List ε → Prop} {P : List ε → ε → Prop} {ok : σ → ε → Prop} {s : σ}
    (hs : Inv []) (hstep : ∀ pre e, Inv pre → ok (run step s pre) e → Inv (pre ++ [e]))
    (hP : ∀ pre e, Inv pre → (P pre e ↔ ok (run step s pre) e)) (events : List ε) :
    (∀ pre e, pre ++ [e] <+: events → P pre e) ↔ Along step ok s events := by
  constructor
  · intro h
    induction events using List.reverseRecOn with
    | nil => trivial
    | append_singleton events e ih =>
        have hevents := ih fun pre d hd => h pre d (hd.trans (List.prefix_append events [e]))
        have hinv := history_invariant hs hstep hevents
        exact along_concat.mpr ⟨hevents, (hP events e hinv).mp (h events e (List.prefix_refl _))⟩
  · rintro h pre e ⟨rest, rfl⟩
    obtain ⟨hpre, he⟩ := along_concat.mp (along_append.mp h).1
    exact (hP pre e (history_invariant hs hstep hpre)).mpr he

/-- A condition along a run is one on each event, given its history. -/
theorem along_iff_forall {ok : σ → ε → Prop} {s : σ} {events : List ε} :
    Along step ok s events ↔ ∀ pre e, pre ++ [e] <+: events → ok (run step s pre) e := by
  constructor
  · rintro h pre e ⟨rest, rfl⟩
    exact (along_concat.mp (along_append.mp h).1).2
  · intro h
    induction events using List.reverseRecOn with
    | nil => trivial
    | append_singleton events e ih =>
        have hevents := ih fun pre d hd => h pre d (hd.trans (List.prefix_append events [e]))
        exact along_concat.mpr ⟨hevents, h events e (List.prefix_refl _)⟩

section Views

variable (step) in
/-- The events of a run, each as `edit` changes it in the state in which it is taken. -/
def edited (edit : σ → ε → ε) : σ → List ε → List ε
  | _, [] => []
  | s, e :: events => edit s e :: edited edit (step s e) events

/-- Where a view of the state takes the edited step to the view of the next state, it takes the
edited run to the view of the last one. -/
theorem run_edited {view : σ → σ} {edit : σ → ε → ε} {Inv : σ → Prop} {ok : σ → ε → Prop}
    (hkeep : ∀ s e, Inv s → Inv (step s e))
    (hstep : ∀ s e, Inv s → ok s e → step (view s) (edit s e) = view (step s e)) {s : σ}
    {events : List ε} (hs : Inv s) (h : Along step ok s events) :
    run step (view s) (edited step edit s events) = view (run step s events) := by
  induction events generalizing s with
  | nil => rfl
  | cons e events ih =>
      rw [edited, run_cons, hstep s e hs h.1]
      exact ih (hkeep s e hs) h.2

end Views

section Records

variable {α : Type*} (step) (note : σ → ε → List α)

/-- A step that also notes something down. -/
def record (p : σ × List α) (e : ε) : σ × List α := (step p.1 e, p.2 ++ note p.1 e)

/-- Taking notes does not change the run. -/
theorem run_record_fst (p : σ × List α) (events : List ε) :
    (run (record step note) p events).1 = run step p.1 events := by
  induction events generalizing p with
  | nil => rfl
  | cons e events ih =>
      rw [run_cons, ih]
      rfl

variable {step note}

/-- What every step keeps, of the state and the notes up to it. -/
theorem run_record_preserves {Inv : σ → List α → Prop}
    (hstep : ∀ s log e, Inv s log → Inv (step s e) (log ++ note s e)) {s : σ} {log : List α}
    (h : Inv s log) (events : List ε) :
    Inv (run (record step note) (s, log) events).1 (run (record step note) (s, log) events).2 := by
  induction events generalizing s log with
  | nil => exact h
  | cons e events ih => exact ih (hstep s log e h)

end Records

section Pairs

/-- Two runs side by side. -/
def both (step : σ → ε → σ) (p : σ × σ) (e : ε × ε) : σ × σ := (step p.1 e.1, step p.2 e.2)

theorem run_both (p : σ × σ) (events : List (ε × ε)) :
    run (both step) p events =
      (run step p.1 (events.map Prod.fst), run step p.2 (events.map Prod.snd)) := by
  induction events generalizing p with
  | nil => rfl
  | cons e events ih =>
      rw [run_cons, ih]
      rfl

/-- A view that agrees on two states, and on what every pair of events that meets the condition
makes of two states on which it agrees, agrees after the two runs. -/
theorem agree_of_along {α : Type*} {view : σ → α} {ok : σ × σ → ε × ε → Prop}
    (hstep : ∀ p e, view p.1 = view p.2 → ok p e → view (step p.1 e.1) = view (step p.2 e.2))
    {p : σ × σ} {events : List (ε × ε)} (hp : view p.1 = view p.2)
    (h : Along (both step) ok p events) :
    view (run step p.1 (events.map Prod.fst)) = view (run step p.2 (events.map Prod.snd)) := by
  have hboth : (fun q : σ × σ => view q.1 = view q.2) (run (both step) p events) :=
    run_invariant (fun q e hq hok => hstep q e hq hok) hp h
  rw [run_both] at hboth
  exact hboth

end Pairs

section Blind

variable {α β : Type*}

/-- What a function makes of a state, seen through the view, depends on the view of it only. -/
def Blind (view : α → α) (view' : β → β) (f : α → β) : Prop :=
  ∀ a, view' (f (view a)) = view' (f a)

theorem Blind.congr {view : α → α} {view' : β → β} {f : α → β} (h : Blind view view' f) {a b : α}
    (hab : view a = view b) : view' (f a) = view' (f b) := by
  rw [← h a, hab, h b]

theorem Blind.comp {γ : Type*} {view : α → α} {view' : β → β} {view'' : γ → γ} {g : β → γ}
    {f : α → β} (hg : Blind view' view'' g) (hf : Blind view view' f) :
    Blind view view'' (g ∘ f) := fun a => hg.congr (hf a)

/-- A function that the view passes through. -/
theorem Blind.of_commutes {view : α → α} {view' : β → β} {f : α → β}
    (hview : ∀ b, view' (view' b) = view' b) (h : ∀ a, f (view a) = view' (f a)) :
    Blind view view' f := fun a => by rw [h, hview]

end Blind

end UntitledGame.Lib.Runs
