import Mathlib.Data.List.Forall2
import Mathlib.Data.List.Perm.Basic
import Mathlib.Tactic

/-! Computations that may raise: what a sequence of them comes to, and loops over a list, which
return exactly if each item lets them, and then in every order of the list; what is made of the items
that gave something; filters whose test may raise. -/
namespace Lib
variable {ε α β σ : Type} {f : α → Except ε β} {l l' : List α} {bs : List β}

@[simp] theorem ok_bind (a : α) (g : α → Except ε β) : (Except.ok a >>= g) = g a := rfl

@[simp] theorem error_bind (e : ε) (g : α → Except ε β) :
    ((Except.error e : Except ε α) >>= g) = .error e := rfl

@[simp] theorem pure_eq_ok (a : α) : (pure a : Except ε α) = .ok a := rfl

@[simp] theorem map_ok (g : α → β) (a : α) : (g <$> (Except.ok a : Except ε α)) = .ok (g a) := rfl

@[simp] theorem map_error (g : α → β) (e : ε) :
    (g <$> (Except.error e : Except ε α)) = .error e := rfl

theorem bind_eq_ok_iff {x : Except ε α} {g : α → Except ε β} {b : β} :
    (x >>= g) = .ok b ↔ ∃ a, x = .ok a ∧ g a = .ok b := by
  cases x <;> simp

theorem map_eq_ok_iff {x : Except ε α} {g : α → β} {b : β} :
    g <$> x = .ok b ↔ ∃ a, x = .ok a ∧ g a = b := by
  cases x <;> simp

theorem returns_of_isOk {x : Except ε α} (h : x.isOk = true) : ∃ a, x = .ok a := by
  cases x with
  | error e => cases h
  | ok a => exact ⟨a, rfl⟩

theorem mapM_eq_ok_iff : l.mapM f = .ok bs ↔ List.Forall₂ (fun a b => f a = .ok b) l bs := by
  induction l generalizing bs with
  | nil => simp [List.forall₂_nil_left_iff, eq_comm]
  | cons a l ih =>
    simp only [List.mapM_cons, bind_eq_ok_iff, pure_eq_ok, Except.ok.injEq, ih,
      List.forall₂_cons_left_iff]
    constructor
    · rintro ⟨b, hb, rest, hrest, rfl⟩
      exact ⟨b, rest, hb, hrest, rfl⟩
    · rintro ⟨b, rest, hb, hrest, rfl⟩
      exact ⟨b, hb, rest, hrest, rfl⟩

theorem mapM_returns (h : ∀ a ∈ l, ∃ b, f a = .ok b) : ∃ bs, l.mapM f = .ok bs := by
  induction l with
  | nil => exact ⟨[], rfl⟩
  | cons a l ih =>
    obtain ⟨b, hb⟩ := h a List.mem_cons_self
    obtain ⟨bs, hbs⟩ := ih fun a' ha' => h a' (List.mem_cons_of_mem a ha')
    exact ⟨b :: bs, by simp [List.mapM_cons, hb, hbs]⟩

theorem mem_mapM {b : β} (h : l.mapM f = .ok bs) (hb : b ∈ bs) : ∃ a ∈ l, f a = .ok b := by
  induction l generalizing bs with
  | nil =>
    obtain rfl := Except.ok.inj h
    simp at hb
  | cons a l ih =>
    obtain ⟨b', rest, ha, hrest, rfl⟩ := List.forall₂_cons_left_iff.mp (mapM_eq_ok_iff.mp h)
    rcases List.mem_cons.mp hb with rfl | htail
    · exact ⟨a, List.mem_cons_self, ha⟩
    · obtain ⟨c, hc, hfc⟩ := ih (mapM_eq_ok_iff.mpr hrest) htail
      exact ⟨c, List.mem_cons_of_mem a hc, hfc⟩

theorem returns_of_mapM {a : α} (h : l.mapM f = .ok bs) (ha : a ∈ l) : ∃ b ∈ bs, f a = .ok b := by
  induction l generalizing bs with
  | nil => simp at ha
  | cons a' l ih =>
    obtain ⟨b', rest, ha', hrest, rfl⟩ := List.forall₂_cons_left_iff.mp (mapM_eq_ok_iff.mp h)
    rcases List.mem_cons.mp ha with rfl | htail
    · exact ⟨b', List.mem_cons_self, ha'⟩
    · obtain ⟨b, hb, hfb⟩ := ih (mapM_eq_ok_iff.mpr hrest) htail
      exact ⟨b, List.mem_cons_of_mem b' hb, hfb⟩

/-- In another order of the items the loop collects the same in that order. -/
theorem mapM_of_perm (h : l.Perm l') (hbs : l.mapM f = .ok bs) :
    ∃ bs', l'.mapM f = .ok bs' ∧ bs.Perm bs' := by
  obtain ⟨bs', hbs', hperm⟩ := List.perm_comp_forall₂ h.symm (mapM_eq_ok_iff.mp hbs)
  exact ⟨bs', mapM_eq_ok_iff.mpr hbs', hperm.symm⟩

/-- What is kept of what the loop collects. -/
theorem reduceOption_of_mapM {f : α → Except ε (Option β)} {bs : List (Option β)}
    (h : l.mapM f = .ok bs) :
    bs.reduceOption = l.filterMap fun a => (f a).toOption.join := by
  have hall := mapM_eq_ok_iff.mp h
  clear h
  induction hall with
  | nil => rfl
  | @cons a b l bs hab _ ih =>
    rw [List.filterMap_cons, ← ih, hab]
    cases b <;> rfl

theorem flatten_of_mapM {f : α → Except ε (List β)} {bs : List (List β)}
    (h : l.mapM f = .ok bs) :
    bs.flatten = l.flatMap fun a => (f a).toOption.getD [] := by
  have hall := mapM_eq_ok_iff.mp h
  clear h
  induction hall with
  | nil => rfl
  | cons hab _ ih => rw [List.flatten_cons, List.flatMap_cons, ih, hab]; rfl

/-- What is made of the items found is made of the items they were found for. -/
theorem flatMap_filterMap_eq {γ : Type} {find : α → Option β} {g : β → List γ}
    {g' : α → List γ} (h : ∀ a ∈ l, ∀ b, find a = some b → g b = g' a) :
    (l.filterMap find).flatMap g = (l.filter fun a => (find a).isSome).flatMap g' := by
  induction l with
  | nil => rfl
  | cons a l ih =>
    have hrest := ih fun a' ha' => h a' (List.mem_cons_of_mem a ha')
    cases hfind : find a with
    | none => rw [List.filterMap_cons_none hfind, List.filter_cons_of_neg (by simp [hfind]), hrest]
    | some b =>
      rw [List.filterMap_cons_some hfind, List.filter_cons_of_pos (by simp [hfind]),
        List.flatMap_cons, List.flatMap_cons, hrest, h a List.mem_cons_self b hfind]

/-- For items that correspond to others the loop collects what corresponds. -/
theorem mapM_of_forall₂ {α' β' : Type} {f' : α' → Except ε β'} {R : α → α' → Prop}
    {S : β → β' → Prop} {as : List α'}
    (h : ∀ a a' b, R a a' → f a = .ok b → ∃ b', f' a' = .ok b' ∧ S b b')
    (hl : List.Forall₂ R l as) (hbs : l.mapM f = .ok bs) :
    ∃ bs', as.mapM f' = .ok bs' ∧ List.Forall₂ S bs bs' := by
  induction hl generalizing bs with
  | nil =>
    obtain rfl := Except.ok.inj hbs
    exact ⟨[], rfl, .nil⟩
  | cons hR _ ih =>
    rw [List.mapM_cons] at hbs
    obtain ⟨b, hb, hbs⟩ := bind_eq_ok_iff.mp hbs
    obtain ⟨rest, hrest, hbs⟩ := bind_eq_ok_iff.mp hbs
    obtain rfl := Except.ok.inj hbs
    obtain ⟨b', hb', hS⟩ := h _ _ b hR hb
    obtain ⟨rest', hrest', hall⟩ := ih hrest
    exact ⟨b' :: rest', by simp [List.mapM_cons, hb', hrest'], .cons hS hall⟩

/-- A loop whose body puts together with the state what the item gives. -/
theorem foldlM_eq_map_mapM {step : σ → α → Except ε σ} {add : σ → β → σ}
    (h : ∀ s a, step s a = add s <$> f a) (s : σ) :
    l.foldlM step s = (fun bs => bs.foldl add s) <$> l.mapM f := by
  induction l generalizing s with
  | nil => rfl
  | cons a l ih =>
    rw [List.foldlM_cons, List.mapM_cons, h]
    cases f a with
    | error e => rfl
    | ok b =>
      simp only [map_ok, ok_bind, ih]
      cases l.mapM f <;> rfl

/-- A loop whose body returns for every item. -/
theorem foldlM_eq_ok_foldl {step : σ → α → Except ε σ} {next : σ → α → σ}
    (h : ∀ a ∈ l, ∀ s, step s a = .ok (next s a)) (s : σ) :
    l.foldlM step s = .ok (l.foldl next s) := by
  induction l generalizing s with
  | nil => rfl
  | cons a l ih =>
    rw [List.foldlM_cons, h a List.mem_cons_self, ok_bind, List.foldl_cons]
    exact ih (fun b hb => h b (List.mem_cons_of_mem _ hb)) (next s a)

/-- A loop whose body raises for one of the items, whatever the state. -/
theorem foldlM_error {step : σ → α → Except ε σ} {a : α} (ha : a ∈ l)
    (h : ∀ s, ∃ e, step s a = .error e) (s : σ) : ∃ e, l.foldlM step s = .error e := by
  induction l generalizing s with
  | nil => simp at ha
  | cons b l ih =>
    rw [List.foldlM_cons]
    rcases List.mem_cons.mp ha with rfl | htail
    · obtain ⟨e, he⟩ := h s
      exact ⟨e, by simp [he]⟩
    · cases step s b with
      | error e => exact ⟨e, rfl⟩
      | ok s' => exact ih htail s'

/-! ### Errors of a kind, and filters whose test may raise -/

/-- The computation fails with errors from `P` only. -/
def ErrorsIn {α ε : Type} (P : ε → Prop) (x : Except ε α) : Prop := ∀ e, x = .error e → P e

theorem errorsIn_ok {P : ε → Prop} (a : α) : ErrorsIn P (.ok a : Except ε α) := by
  intro e h
  cases h

theorem errorsIn_error {P : ε → Prop} {e : ε} (h : P e) : ErrorsIn P (.error e : Except ε α) := by
  intro e' he
  cases he
  exact h

theorem ErrorsIn.bind {P : ε → Prop} {x : Except ε α} {f : α → Except ε β}
    (hx : ErrorsIn P x) (hf : ∀ a, ErrorsIn P (f a)) : ErrorsIn P (x >>= f) := by
  cases x with
  | error e => exact errorsIn_error (hx e rfl)
  | ok a => exact hf a

/-- `filter` with a test that may fail; the first failure ends it. -/
def filterE {α ε : Type} (p : α → Except ε Bool) : List α → Except ε (List α)
  | [] => .ok []
  | a :: l => do
    let keep ← p a
    let rest ← filterE p l
    return if keep then a :: rest else rest

theorem errorsIn_filterE {P : ε → Prop} {p : α → Except ε Bool} (h : ∀ a, ErrorsIn P (p a))
    (l : List α) : ErrorsIn P (filterE p l) := by
  induction l with
  | nil => exact errorsIn_ok []
  | cons a l ih =>
    unfold filterE
    exact (h a).bind fun _ => ih.bind fun _ => errorsIn_ok _

/-- The filter returns when no test fails, and then keeps what passes. -/
theorem filterE_eq_ok {p : α → Except ε Bool} {kept : List α} :
    filterE p l = .ok kept ↔
      (∀ a ∈ l, ∃ b, p a = .ok b) ∧ kept = l.filter fun a => (p a).toOption.getD false := by
  induction l generalizing kept with
  | nil => simp [filterE, eq_comm]
  | cons a l ih =>
    unfold filterE
    cases hp : p a with
    | error e => simp [bind, Except.bind, hp]
    | ok keep =>
      cases hl : filterE p l with
      | error e =>
        apply iff_of_false
        · simp [bind, Except.bind]
        · rintro ⟨hall, -⟩
          have hrest := ih.mpr ⟨fun b hb => hall b (List.mem_cons_of_mem a hb), rfl⟩
          rw [hl] at hrest
          cases hrest
      | ok rest =>
        obtain ⟨hall, hrest⟩ := ih.mp hl
        simp only [bind, Except.bind, pure, Except.pure, Except.ok.injEq, List.mem_cons,
          forall_eq_or_imp, hp, exists_eq', true_and, List.filter_cons, Except.toOption,
          Option.getD_some]
        rw [hrest, eq_comm]
        exact ⟨fun h => ⟨hall, h⟩, fun h => h.2⟩

/-- An entry that passes may be exchanged for another that passes; those kept before it have passed. -/
theorem filterE_at {p : α → Except ε Bool} {pre post kept : List α} {a : α}
    (h : filterE p (pre ++ a :: post) = .ok kept) (ha : p a = .ok true) :
    ∃ pre' post', kept = pre' ++ a :: post' ∧ (∀ b ∈ pre', b ∈ pre ∧ p b = .ok true) ∧
      ∀ b, p b = .ok true → filterE p (pre ++ b :: post) = .ok (pre' ++ b :: post') := by
  obtain ⟨hall, rfl⟩ := filterE_eq_ok.mp h
  have hat {b : α} (hb : p b = .ok true) :
      (pre ++ b :: post).filter (fun c => (p c).toOption.getD false) =
        pre.filter (fun c => (p c).toOption.getD false) ++
          b :: post.filter (fun c => (p c).toOption.getD false) := by
    rw [List.filter_append, List.filter_cons, hb]
    rfl
  refine ⟨_, _, hat ha, fun b hb => ?_, fun b hb => filterE_eq_ok.mpr ⟨fun c hc => ?_, (hat hb).symm⟩⟩
  · obtain ⟨hmem, hkept⟩ := List.mem_filter.mp hb
    obtain ⟨keep, hkeep⟩ := hall b (List.mem_append_left _ hmem)
    rw [hkeep] at hkept ⊢
    exact ⟨hmem, by rw [show keep = true from hkept]⟩
  · rcases List.mem_append.mp hc with hc | hc
    · exact hall c (List.mem_append_left _ hc)
    · rcases List.mem_cons.mp hc with rfl | hc
      · exact ⟨true, hb⟩
      · exact hall c (List.mem_append_right _ (List.mem_cons_of_mem a hc))

end Lib
