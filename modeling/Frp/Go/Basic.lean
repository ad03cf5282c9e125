import Mathlib.Data.List.AList
import Mathlib.Data.List.Infix
import Mathlib.Data.List.Forall2

/-! The parts of Go's `strings`, `strconv` and maps that the frp sources call. -/
namespace Frp.Go

/-- `strings.Split(s, sep)` for a one-character `sep`. -/
def split (s : String) (sep : Char) : List String :=
  (s.toList.splitOn sep).map String.mk

/-- `strings.Join(elems, sep)` for a one-character `sep`. -/
def join (elems : List String) (sep : Char) : String :=
  String.mk ([sep].intercalate (elems.map String.toList))

def contains (s substr : String) : Bool := decide (substr.toList <:+: s.toList)

def hasPrefix (s pre : String) : Bool := decide (pre.toList <+: s.toList)

def trimPrefix (s pre : String) : String :=
  if hasPrefix s pre then String.mk (s.toList.drop pre.length) else s

def isSpace (c : Char) : Bool :=
  c.toNat ∈ [9, 10, 11, 12, 13, 32, 0x85, 0xA0, 0x1680, 0x2028, 0x2029, 0x202F, 0x205F, 0x3000] ||
    (0x2000 ≤ c.toNat && c.toNat ≤ 0x200A)

def trimSpace (s : String) : String :=
  String.mk ((s.toList.dropWhile isSpace).reverse.dropWhile isSpace).reverse

/-- `strings.ToLower`, on the ASCII letters (the only case mapping the model keeps). -/
def toLower (s : String) : String := String.mk (s.toList.map Char.toLower)

def decimalValue : List Char → Option Nat
  | [] => none
  | ds => if ds.all Char.isDigit then
      some (ds.foldl (fun n d => 10 * n + (d.toNat - '0'.toNat)) 0) else none

/-- `strconv.ParseInt(s, 10, 64)`, and `strconv.Atoi(s)` on a 64-bit platform: an optional
sign, then decimal digits, with the value in the range of `int64`. -/
def parseInt (s : String) : Option Int :=
  let (neg, ds) : Bool × List Char := match s.toList with
    | '+' :: ds => (false, ds)
    | '-' :: ds => (true, ds)
    | ds => (false, ds)
  match decimalValue ds with
  | none => none
  | some n =>
    let v : Int := if neg then -n else n
    if -9223372036854775808 ≤ v ∧ v ≤ 9223372036854775807 then some v else none

/-- A Go `map[string]V`: its entries in the order a `range` loop visits them, keys distinct.
Assignment `m[k] = v` is `AList.insert`. -/
abbrev GoMap (V : Type) := AList (fun _ : String => V)

/-- `m[k]` on a `map[string]string`: the zero value `""` when `k` is absent. -/
def GoMap.get (m : GoMap String) (k : String) : String := (m.lookup k).getD ""

theorem length_split (s : String) (sep : Char) :
    (split s sep).length = s.toList.count sep + 1 := by
  simp only [split, List.length_map, List.splitOn]
  induction s.toList with
  | nil => rfl
  | cons x xs ih =>
    rw [List.splitOnP_cons]
    by_cases h : x = sep
    · simp [h, ih]
    · simp [h, ih, List.count_cons]

theorem split_of_not_mem {s : String} {sep : Char} (h : sep ∉ s.toList) : split s sep = [s] := by
  simp only [split, List.splitOn]
  rw [List.splitOnP_eq_single _ _ fun x hx he => h (by rwa [beq_iff_eq.mp he] at hx)]
  rfl

theorem split_ne_nil (s : String) (sep : Char) : split s sep ≠ [] := by
  simpa [split, List.splitOn] using List.splitOnP_ne_nil _ _

theorem contains_of_infix {s t : String} (h : t.toList <:+: s.toList) : contains s t = true := by
  simpa [contains] using h

/-- `for k, v := range m { if v2, ok := m2[k]; !ok || v != v2 { return false } }`: every entry
of `m` is one of `m2`. -/
def GoMap.entriesIn {V : Type} [DecidableEq V] (m m2 : GoMap V) : Bool :=
  m.entries.all fun e => m2.lookup e.1 == some e.2

theorem GoMap.entriesIn_iff_perm {V : Type} [DecidableEq V] {m m2 : GoMap V} :
    (m.entries.length = m2.entries.length ∧ m.entriesIn m2 = true) ↔
      m.entries.Perm m2.entries := by
  have hmem : ∀ (e : Sigma fun _ : String => V),
      (m2.lookup e.1 == some e.2) = true ↔ e ∈ m2.entries := fun _ => by
    rw [beq_iff_eq, ← Option.mem_def, AList.mem_lookup_iff]
  simp only [GoMap.entriesIn, List.all_eq_true, hmem]
  refine ⟨fun ⟨hl, hsub⟩ => ?_, fun hp => ⟨hp.length_eq, fun _ he => hp.subset he⟩⟩
  exact (List.subperm_of_subset m.nodupKeys.nodup hsub).perm_of_length_le hl.ge

theorem split_join {xs : List String} {sep : Char} (h : ∀ s ∈ xs, sep ∉ s.toList)
    (hne : xs ≠ []) : split (join xs sep) sep = xs := by
  simp only [split, join, String.toList]
  rw [List.splitOn_intercalate _ _ (by simpa using h) (by simpa using hne)]
  simp [Function.comp_def]

theorem join_inj {xs ys : List String} {sep : Char} (hx : xs ≠ [""])
    (hxs : ∀ s ∈ xs, sep ∉ s.toList) (hy : ys ≠ [""]) (hys : ∀ s ∈ ys, sep ∉ s.toList)
    (h : join xs sep = join ys sep) : xs = ys := by
  have hnil : ∀ {zs : List String}, zs ≠ [""] → (∀ s ∈ zs, sep ∉ s.toList) →
      join zs sep = join [] sep → zs = [] := fun {zs} hz hzs he => by
    by_contra hne
    exact hz (by rw [← split_join hzs hne, he]; rfl)
  by_cases hxn : xs = []
  · subst hxn; exact (hnil hy hys h.symm).symm
  by_cases hyn : ys = []
  · subst hyn; exact hnil hx hxs h
  rw [← split_join hxs hxn, h, split_join hys hyn]

/-! Go's `if err != nil { return err }`: a function returning `Except String`, and its loops. -/

theorem except_bind_eq_ok {ε α β : Type} {x : Except ε α} {f : α → Except ε β} {b : β} :
    x >>= f = .ok b ↔ ∃ a, x = .ok a ∧ f a = .ok b := by
  cases x <;> simp [bind, Except.bind]

theorem except_map_eq_ok {ε α β : Type} {x : Except ε α} {f : α → β} {b : β} :
    f <$> x = .ok b ↔ ∃ a, x = .ok a ∧ f a = b := by
  cases x <;> simp [Functor.map, Except.map]

@[simp] theorem except_pure_eq_ok {ε α : Type} {a b : α} :
    (pure a : Except ε α) = .ok b ↔ a = b := by
  simp [pure, Except.pure]

@[simp] theorem except_throw_ne_ok {ε α : Type} {e : ε} {a : α} :
    (throw e : Except ε α) ≠ .ok a :=
  nofun

@[simp] theorem except_ite_throw_eq_ok {ε α : Type} {c : Prop} [Decidable c] {e : ε} {a b : α} :
    (if c then throw e else pure a : Except ε α) = .ok b ↔ ¬c ∧ a = b := by
  split_ifs <;> simp_all

/-- `if err != nil { return fmt.Errorf(pre + "%v", err) }`, and `v` when there is no error. -/
def orFail {α : Type} (err : Option String) (pre : String) (v : α) : Except String α :=
  match err with
  | some e => .error (pre ++ e)
  | none => .ok v

@[simp] theorem orFail_none {α : Type} {pre : String} {v : α} : orFail none pre v = .ok v := rfl

@[simp] theorem orFail_some {α : Type} {e pre : String} {v : α} :
    orFail (some e) pre v = .error (pre ++ e) := rfl

@[simp] theorem orFail_eq_ok {α : Type} {err : Option String} {pre : String} {v w : α} :
    orFail err pre v = .ok w ↔ err = none ∧ v = w := by
  cases err <;> simp [orFail]

section Loops
variable {ε X Y A : Type}

theorem mapM_eq_ok (f : X → Except ε Y) :
    ∀ (l : List X) (ys : List Y),
      l.mapM f = .ok ys ↔ List.Forall₂ (fun x y => f x = .ok y) l ys
  | [], ys => by rw [List.mapM_nil]; cases ys <;> simp [pure, Except.pure]
  | x :: l, ys => by
    rw [List.mapM_cons]
    simp only [except_bind_eq_ok, mapM_eq_ok f l, except_pure_eq_ok]
    cases ys with
    | nil => simp
    | cons y ys => simp [List.forall₂_cons]

theorem foldlM_bind_eq_ok (f : X → Except ε Y) (k : A → Y → Except ε A) :
    ∀ (l : List X) (a b : A), l.foldlM (fun acc x => f x >>= k acc) a = .ok b ↔
      ∃ ys, List.Forall₂ (fun x y => f x = .ok y) l ys ∧ ys.foldlM k a = .ok b
  | [], a, b => by simp [pure, Except.pure]
  | x :: l, a, b => by
    simp only [List.foldlM_cons, except_bind_eq_ok, foldlM_bind_eq_ok f k l]
    constructor
    · rintro ⟨a', ⟨y, hy, ha'⟩, ys, hys, hb⟩
      exact ⟨y :: ys, .cons hy hys, by simp [List.foldlM_cons, except_bind_eq_ok, ha', hb]⟩
    · rintro ⟨_ | ⟨y, ys⟩, h, hb⟩
      · cases h
      · obtain ⟨hy, hys⟩ := List.forall₂_cons.mp h
        simp only [List.foldlM_cons, except_bind_eq_ok] at hb
        obtain ⟨a', ha', hb⟩ := hb
        exact ⟨a', ⟨y, hy, ha'⟩, ys, hys, hb⟩

theorem foldlM_map_eq_ok (f : X → Except ε Y) (st : A → X → Y → A) :
    ∀ (l : List X) (a b : A), l.foldlM (fun acc x => st acc x <$> f x) a = .ok b ↔
      ∃ ps : List (X × Y), List.Forall₂ (fun x p => p.1 = x ∧ f x = .ok p.2) l ps ∧
        b = ps.foldl (fun acc p => st acc p.1 p.2) a
  | [], a, b => by simp [pure, Except.pure, eq_comm]
  | x :: l, a, b => by
    simp only [List.foldlM_cons, except_bind_eq_ok, except_map_eq_ok, foldlM_map_eq_ok f st l]
    constructor
    · rintro ⟨_, ⟨y, hy, rfl⟩, ps, hps, rfl⟩
      exact ⟨(x, y) :: ps, .cons ⟨rfl, hy⟩ hps, rfl⟩
    · rintro ⟨_ | ⟨⟨x', y⟩, ps⟩, h, rfl⟩
      · cases h
      · obtain ⟨⟨rfl, hy⟩, hps⟩ := List.forall₂_cons.mp h
        exact ⟨_, ⟨y, hy, rfl⟩, ps, hps, rfl⟩

theorem foldlM_flatten (g : A → X → Except ε A) :
    ∀ (ls : List (List X)) (a : A),
      ls.foldlM (fun acc l => l.foldlM g acc) a = ls.flatten.foldlM g a
  | [], _ => rfl
  | l :: ls, a => by simp [List.foldlM_append, foldlM_flatten g ls]

end Loops

end Frp.Go
