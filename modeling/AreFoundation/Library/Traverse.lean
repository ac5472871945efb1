import Mathlib.Data.List.Forall2

-- Lists whose elements are handled one after the other until one of them fails.
namespace Except

variable {f : α → Except ε β} {l : List α}

theorem mapM_eq_ok_iff : l.mapM f = .ok r ↔ List.Forall₂ (f · = .ok ·) l r := by
  induction l generalizing r
  case nil =>
    rw [List.mapM_nil, List.forall₂_nil_left_iff]
    exact ⟨fun h => (Except.ok.inj h).symm, fun h => h ▸ rfl⟩
  case cons a l hi =>
    rw [List.mapM_cons, List.forall₂_cons_left_iff]
    constructor
    case mp =>
      intro h
      cases ha : f a
      case error => simp [ha, bind, Except.bind] at h
      case ok b  =>
        cases hl : l.mapM f
        case error => simp [ha, hl, bind, Except.bind] at h
        case ok bs =>
          simp only [ha, hl, bind, Except.bind, pure, Except.pure, Except.ok.injEq] at h
          exact ⟨b, bs, rfl, hi.mp hl, h.symm⟩
    case mpr =>
      rintro ⟨b, bs, ha, hl, rfl⟩
      simp [ha, hi.mpr hl, bind, Except.bind, pure, Except.pure]

theorem exists_of_mapM_error (h : l.mapM f = .error e) : ∃ a, f a = .error e := by
  induction l
  case nil => cases h
  case cons a l hi =>
    rw [List.mapM_cons] at h
    cases ha : f a
    case error e' => exact ⟨a, by simpa [ha, bind, Except.bind] using h⟩
    case ok =>
      cases hl : l.mapM f
      case error e' => exact hi (by simpa [ha, hl, bind, Except.bind] using h)
      case ok       => simp [ha, hl, bind, Except.bind, pure, Except.pure] at h

end Except

theorem List.Forall₂.exists_of_mem {R : α → β → Prop} {l : List α} {r : List β}
    (h : List.Forall₂ R l r) (hb : b ∈ r) : ∃ a ∈ l, R a b := by
  induction h
  case nil => cases hb
  case cons hr _ hi =>
    rcases List.mem_cons.mp hb with rfl | hb
    case inl => exact ⟨_, List.mem_cons_self, hr⟩
    case inr => exact (hi hb).imp fun _ h => ⟨List.mem_cons_of_mem _ h.left, h.right⟩
