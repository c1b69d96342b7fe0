import SmolGnet.Library.Machine

/-!
# Simulation of one machine by another

A relation between the states of two machines is a simulation if every step of the one is matched by a
run of the other in which the same is observed.  Then every run of the one is matched by a run of the
other.
-/

namespace Machine

variable {σ α τ β ω : Type*}

/-- What is observed during a run. -/
def observed (step : σ → α → σ) (obs : σ → α → List ω) (s : σ) (as : List α) : List ω :=
  (outputs step obs s as).flatten

@[simp]
theorem observed_nil {step : σ → α → σ} {obs : σ → α → List ω} (s : σ) :
  observed step obs s [] = []
  := rfl

@[simp]
theorem observed_cons {step : σ → α → σ} {obs : σ → α → List ω} (s : σ) (a : α) (as : List α) :
  observed step obs s (a :: as) = obs s a ++ observed step obs (step s a) as
  := rfl

theorem observed_append {step : σ → α → σ} {obs : σ → α → List ω} (s : σ) (as bs : List α) :
  observed step obs s (as ++ bs) = observed step obs s as ++ observed step obs (run step s as) bs
  := by rw [observed, observed, observed, outputs_append, List.flatten_append]

/-- The run from the state `t` ends in a state with the property, and `seen` is observed in it. -/
def Matches (step : τ → β → τ) (obs : τ → β → List ω) (P : τ → Prop) (t : τ) (seen : List ω) : Prop :=
  ∃ bs, P (run step t bs) ∧ observed step obs t bs = seen

section

variable {step : τ → β → τ} {obs : τ → β → List ω} {P Q : τ → Prop} {t : τ} {seen seen' : List ω}

/-- A run in which nothing happens. -/
theorem matches_nil (h : P t) :
  Matches step obs P t []
  := ⟨[], h, rfl⟩

/-- A run of one step. -/
theorem matches_single (b : β) (h : P (step t b)) (hobs : obs t b = seen) :
  Matches step obs P t seen
  := ⟨[b], h, by rw [observed_cons, observed_nil, List.append_nil, hobs]⟩

/-- One run after another. -/
theorem Matches.trans (h : Matches step obs P t seen)
    (hnext : ∀ t, P t → Matches step obs Q t seen') :
  Matches step obs Q t (seen ++ seen')
  := by
  obtain ⟨bs, hp, hbs⟩ := h
  obtain ⟨bs', hq, hbs'⟩ := hnext _ hp
  refine ⟨bs ++ bs', ?_, ?_⟩
  · rw [run_append]
    exact hq
  · rw [observed_append, hbs, hbs']

/-- A run of a machine with the states, actions and observations renamed. -/
theorem Matches.map {f : τ → τ} {g : β → β} {k : ω → ω} (h : Matches step obs P t seen)
    (hstep : ∀ t b, step (f t) (g b) = f (step t b))
    (hobs : ∀ t b, obs (f t) (g b) = (obs t b).map k) (hPQ : ∀ t, P t → Q (f t)) :
  Matches step obs Q (f t) (seen.map k)
  := by
  obtain ⟨bs, hp, rfl⟩ := h
  have hmap : run step (f t) (bs.map g) = f (run step t bs) ∧
      observed step obs (f t) (bs.map g) = (observed step obs t bs).map k := by
    clear hp
    induction bs generalizing t with
    | nil => exact ⟨rfl, rfl⟩
    | cons b bs ih =>
      rw [List.map_cons, run_cons, run_cons, observed_cons, observed_cons, hstep, hobs,
        List.map_append, ih.1, ih.2]
      exact ⟨rfl, rfl⟩
  refine ⟨bs.map g, ?_, hmap.2⟩
  rw [hmap.1]
  exact hPQ _ hp

end

/-- Every step that meets the condition is matched by a run of the other machine. -/
def Simulates (step : σ → α → σ) (obs : σ → α → List ω) (ok : σ → α → Prop) (step' : τ → β → τ)
    (obs' : τ → β → List ω) (R : σ → τ → Prop) : Prop :=
  ∀ s a t, R s t → ok s a → Matches step' obs' (R (step s a)) t (obs s a)

/-- Every run whose steps all meet the condition is matched by a run of the other machine. -/
theorem Simulates.run {step : σ → α → σ} {obs : σ → α → List ω} {ok : σ → α → Prop}
    {step' : τ → β → τ} {obs' : τ → β → List ω} {R : σ → τ → Prop}
    (h : Simulates step obs ok step' obs' R) {s : σ} {t : τ} (hR : R s t) {as : List α}
    (hok : Along step ok s as) :
  Matches step' obs' (R (Machine.run step s as)) t (observed step obs s as)
  := by
  induction as generalizing s t with
  | nil => exact matches_nil hR
  | cons a as ih =>
    rw [observed_cons]
    apply (h s a t hR hok.1).trans
    intro t' hR'
    exact ih hR' hok.2

end Machine
