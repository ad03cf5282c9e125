import Frp.Go.Addr

/-! What `net.ParseIP` reads back from `IP.String`, for IPv4 and IPv6 addresses, and the
characters `ParseIP` accepts. -/
namespace Frp.Go

/-! ### Hexadecimal digits read back -/

theorem shiftRight_succ_mul (i m : Nat) :
    i >>> ((m + 1) * 4) * 16 + (i >>> (m * 4)) % 16 = i >>> (m * 4) := by
  rw [Nat.shiftRight_eq_div_pow, Nat.shiftRight_eq_div_pow, Nat.add_mul, Nat.pow_add,
    ← Nat.div_div_eq_div_mul]
  exact Nat.div_add_mod' _ _

theorem shiftRight_le (i k : Nat) : i >>> k ≤ i := by
  rw [Nat.shiftRight_eq_div_pow]; exact Nat.div_le_self _ _

theorem digitsLoop_nibbles {i : Nat} (hi : i < big) : ∀ (m cnt : Nat) (rest : List Char),
    digitsLoop 16 hexDigit (i >>> (m * 4)) cnt
      ((((List.range m).reverse.filter fun j => i >>> (j * 4) > 0).map
        fun j => Nat.digitChar ((i >>> (j * 4)) % 16)) ++ rest) =
    digitsLoop 16 hexDigit i
      (cnt + ((List.range m).reverse.filter fun j => i >>> (j * 4) > 0).length) rest
  | 0, cnt, rest => by simp
  | m + 1, cnt, rest => by
    rw [List.range_succ, List.reverse_append, List.reverse_singleton, List.singleton_append]
    by_cases hm : i >>> (m * 4) > 0
    · have hd := (digitChar_of_lt ((i >>> (m * 4)) % 16) (Nat.mod_lt _ (by omega))).2
      rw [List.filter_cons_of_pos (by simpa using hm), List.map_cons, List.cons_append,
        digitsLoop, hd]
      dsimp only
      rw [shiftRight_succ_mul, if_neg (Nat.not_le.mpr ((shiftRight_le i _).trans_lt hi)),
        digitsLoop_nibbles hi m, List.length_cons]
      congr 1; omega
    · have h0 : i >>> (m * 4) = 0 := Nat.eq_zero_of_not_pos hm
      have h1 : i >>> ((m + 1) * 4) = 0 := by
        have := shiftRight_succ_mul i m; omega
      have := digitsLoop_nibbles hi m cnt rest
      rw [h0] at this
      rw [List.filter_cons_of_neg (by simpa using hm), h1, this]

theorem digitsLoop_of_head {base : Nat} {digit : Char → Option Nat} {n cnt : Nat}
    {rest : List Char} (hc : cnt ≠ 0) (hr : ∀ c, rest.head? = some c → digit c = none) :
    digitsLoop base digit n cnt rest = some (n, cnt) := by
  cases rest with
  | nil => simp [digitsLoop, hc]
  | cons c rest => simp [digitsLoop, hr c rfl, hc]

theorem mem_appendHex {i : Nat} {c : Char} (h : c ∈ appendHex i) :
    ∃ d < 16, c = Nat.digitChar d := by
  unfold appendHex at h
  split at h
  · exact ⟨0, by omega, List.mem_singleton.mp h⟩
  · obtain ⟨j, -, rfl⟩ := List.mem_map.mp h
    exact ⟨_, Nat.mod_lt _ (by omega), rfl⟩

theorem zero_mem_nibbles {i : Nat} (h0 : i ≠ 0) :
    0 ∈ (List.range 8).reverse.filter fun j => i >>> (j * 4) > 0 :=
  List.mem_filter.mpr ⟨by simp, by simpa using Nat.pos_of_ne_zero h0⟩

theorem appendHex_ne_nil (i : Nat) : appendHex i ≠ [] := by
  unfold appendHex
  split
  · simp
  · next h => exact List.ne_nil_of_mem (List.mem_map_of_mem _ (zero_mem_nibbles h))

theorem xtoi_appendHex {i : Nat} {rest : List Char} (hi : i < big)
    (hr : ∀ c, rest.head? = some c → hexDigit c = none) :
    xtoi (appendHex i ++ rest) = some (i, (appendHex i).length) := by
  unfold xtoi
  by_cases h0 : i = 0
  · subst h0
    simp only [appendHex, ↓reduceIte, List.singleton_append, List.length_singleton]
    rw [digitsLoop, show hexDigit '0' = some 0 by decide]
    exact digitsLoop_of_head (by omega) hr
  · have h8 : i >>> (8 * 4) = 0 := by
      rw [Nat.shiftRight_eq_div_pow]; exact Nat.div_eq_of_lt (by simp only [big] at hi; omega)
    have := digitsLoop_nibbles hi 8 0 rest
    rw [h8] at this
    rw [appendHex, if_neg h0, this, Nat.zero_add, List.length_map]
    exact digitsLoop_of_head (List.length_pos_of_mem (zero_mem_nibbles h0)).ne' hr

/-- The two bytes `parseIPv6` saves for a group `n`: `ip[i] = byte(n >> 8)`, `ip[i+1] = byte(n)`. -/
def groupBytes (n : Nat) : IP := [(n / 256).toUInt8, n.toUInt8]

/-- The text of the groups `gs` in hexadecimal, each after a `:` but the first unless `lead`. -/
def hexGroups (lead : Bool) : List Nat → List Char
  | [] => []
  | g :: gs => (if lead then [':'] else []) ++ appendHex g ++ hexGroups true gs

def groupList (p : IP) : Nat → Nat → List Nat
  | 0, _ => []
  | n + 1, i => group p i :: groupList p n (i + 2)

theorem group_lt (p : IP) (i : Nat) : group p i < 65536 := by
  have := (p.getD i 0).toBitVec.isLt
  have := (p.getD (i + 1) 0).toBitVec.isLt
  simp only [group, UInt8.toNat]
  omega

theorem toUInt8_mul_add (a b : Nat) : (a * 256 + b).toUInt8 = b.toUInt8 := by
  simp only [Nat.toUInt8, UInt8.ofNat]
  congr 1
  apply BitVec.eq_of_toNat_eq
  simp
  omega

theorem groupBytes_group (p : IP) (i : Nat) :
    groupBytes (group p i) = [p.getD i 0, p.getD (i + 1) 0] := by
  have ha : (p.getD i 0).toNat < 256 := (p.getD i 0).toBitVec.isLt
  rw [groupBytes, group, toUInt8_mul_add, toUInt8_toNat,
    show ((p.getD i 0).toNat * 256 + (p.getD (i + 1) 0).toNat) / 256 = (p.getD i 0).toNat by
      have := (p.getD (i + 1) 0).toBitVec.isLt; simp only [UInt8.toNat] at *; omega,
    toUInt8_toNat]

theorem drop_eq_getD_cons {p : IP} {i : Nat} (h : i + 2 ≤ p.length) :
    p.drop i = p.getD i 0 :: p.getD (i + 1) 0 :: p.drop (i + 2) := by
  rw [List.drop_eq_getElem_cons (n := i) (by omega), List.drop_eq_getElem_cons (n := i + 1) (by omega)]
  simp [List.getD_eq_getElem?_getD, List.getElem?_eq_getElem (by omega : i < p.length),
    List.getElem?_eq_getElem (by omega : i + 1 < p.length)]

theorem flatMap_groupBytes {p : IP} : ∀ {n i : Nat}, i + 2 * n ≤ p.length →
    (groupList p n i).flatMap groupBytes = (p.drop i).take (2 * n)
  | 0, _, _ => by simp [groupList]
  | n + 1, i, h => by
    rw [groupList, List.flatMap_cons, groupBytes_group, flatMap_groupBytes (by omega),
      drop_eq_getD_cons (i := i) (by omega), show 2 * (n + 1) = 2 * n + 1 + 1 by omega]
    rfl

theorem groupList_length (p : IP) : ∀ n i, (groupList p n i).length = n
  | 0, _ => rfl
  | n + 1, i => by simp [groupList, groupList_length p n]

theorem mem_hexGroups {c : Char} : ∀ {lead : Bool} {gs : List Nat}, c ∈ hexGroups lead gs →
    c = ':' ∨ ∃ d < 16, c = Nat.digitChar d
  | _, [], h => by simp [hexGroups] at h
  | lead, g :: gs, h => by
    simp only [hexGroups, List.mem_append] at h
    rcases h with (h | h) | h
    · split at h <;> simp_all
    · exact .inr (mem_appendHex h)
    · exact mem_hexGroups h

/-! ### The zero run `IP.String` writes as `::` -/

/-- Bytes `a` to `b` of `p` are zero, with `a` and `b` even and `b` at most 16: a run of zero
groups. -/
def ZeroRun (p : IP) (a b : Nat) : Prop :=
  a ≤ b ∧ b ≤ 16 ∧ a % 2 = 0 ∧ b % 2 = 0 ∧ (p.drop a).take (b - a) = List.replicate (b - a) 0

def RunFound (p : IP) (r : Int × Int) : Prop :=
  r = (-1, -1) ∨ ∃ a b : Nat, r = ((a : Int), (b : Int)) ∧ a < b ∧ ZeroRun p a b

section
variable {p : IP}

theorem ZeroRun.refl {j : Nat} (hj : j ≤ 16) (he : j % 2 = 0) : ZeroRun p j j :=
  ⟨le_rfl, hj, he, he, by simp⟩

theorem ZeroRun.cons {j b : Nat} (hp : p.length = 16) (h : ZeroRun p (j + 2) b)
    (hj0 : p.getD j 0 = 0) (hj1 : p.getD (j + 1) 0 = 0) (he : j % 2 = 0) : ZeroRun p j b := by
  obtain ⟨hjb, hb, -, hbe, hz⟩ := h
  refine ⟨by omega, hb, he, hbe, ?_⟩
  rw [drop_eq_getD_cons (by omega), hj0, hj1, show b - j = b - (j + 2) + 1 + 1 by omega,
    List.take_succ_cons, List.take_succ_cons, hz]
  rfl

theorem ZeroRun.fill {a b : Nat} (h : ZeroRun p a b) :
    p.take a ++ List.replicate (b - a) 0 ++ p.drop b = p := by
  obtain ⟨hab, -, -, -, hz⟩ := h
  have hb : p.drop b = (p.drop a).drop (b - a) := by rw [List.drop_drop]; congr 1; omega
  rw [← hz, hb, List.append_assoc, List.take_append_drop, List.take_append_drop]

theorem zeroRunEnd_run (hp : p.length = 16) : ∀ (fuel j : Nat), j ≤ 16 → j % 2 = 0 →
    ZeroRun p j (zeroRunEnd p fuel j)
  | 0, j, hj, he => ZeroRun.refl hj he
  | fuel + 1, j, hj, he => by
    rw [zeroRunEnd]
    split
    · next h => exact (zeroRunEnd_run hp fuel (j + 2) (by omega) (by omega)).cons hp h.2.1 h.2.2 he
    · exact ZeroRun.refl hj he

theorem longestZeroRun_found (hp : p.length = 16) : ∀ (fuel i : Nat) (e0 e1 : Int), i % 2 = 0 →
    RunFound p (e0, e1) → RunFound p (longestZeroRun p fuel i e0 e1)
  | 0, _, _, _, _, h => h
  | fuel + 1, i, e0, e1, he, h => by
    rw [longestZeroRun]
    split
    · dsimp only
      have hz := zeroRunEnd_run hp 8 i (by omega) he
      split
      · next hj =>
        have he' : (zeroRunEnd p 8 i + 2) % 2 = 0 := by have := hz.2.2.2.1; omega
        exact longestZeroRun_found hp fuel _ _ _ he' (.inr ⟨i, _, rfl, hj.1, hz⟩)
      · exact longestZeroRun_found hp fuel (i + 2) e0 e1 (by omega) h
    · exact h

/-! ### The text of the groups -/

theorem printGroups_of_lt {e0 e1 : Int} : ∀ (n i fuel : Nat), i + 2 * n = 16 → n ≤ fuel →
    e0 < i → printGroups p e0 e1 fuel i = hexGroups (0 < i) (groupList p n i)
  | 0, i, fuel, h, _, _ => by
    cases fuel <;> simp [printGroups, groupList, hexGroups, show ¬ i < 16 by omega]
  | n + 1, i, fuel + 1, h, hf, he => by
    rw [printGroups, if_pos (by omega), if_neg (by omega),
      printGroups_of_lt n (i + 2) fuel (by omega) (by omega) (by omega), groupList, hexGroups]
    simp only [List.append_assoc, gt_iff_lt, decide_eq_true_eq, show 0 < i + 2 by omega,
      decide_True]

theorem printGroups_run {a b : Nat} (hab : a < b) (hb : b ≤ 16) (hbe : b % 2 = 0) :
    ∀ (n i fuel : Nat), i + 2 * n = a → 16 ≤ 2 * fuel + i →
      printGroups p a b fuel i = hexGroups (0 < i) (groupList p n i) ++
        ':' :: ':' :: hexGroups false (groupList p ((16 - b) / 2) b)
  | 0, i, 0, h, hf => by omega
  | 0, i, fuel + 1, h, hf => by
    rw [printGroups, if_pos (by omega), if_pos (by omega), Int.toNat_ofNat]
    split
    · rw [show (16 - b) / 2 = 0 by omega]; rfl
    · rw [printGroups_of_lt ((14 - b) / 2) (b + 2) fuel (by omega) (by omega) (by omega),
        show (16 - b) / 2 = (14 - b) / 2 + 1 by omega]
      simp only [groupList, hexGroups, List.nil_append, List.cons_append, List.append_assoc,
        Bool.false_eq_true, ↓reduceIte, show 0 < b + 2 by omega, decide_True]
  | n + 1, i, 0, h, hf => by omega
  | n + 1, i, fuel + 1, h, hf => by
    rw [printGroups, if_pos (by omega), if_neg (by omega),
      printGroups_run hab hb hbe n (i + 2) fuel (by omega) (by omega), groupList, hexGroups]
    simp only [List.append_assoc, gt_iff_lt, decide_eq_true_eq, show 0 < i + 2 by omega,
      decide_True]
end

/-! ### Reading the groups back -/

theorem hexDigitChar_ne : ∀ d, d < 16 →
    Nat.digitChar d ≠ ':' ∧ Nat.digitChar d ≠ '.' ∧ Nat.digitChar d ≠ '[' ∧
      Nat.digitChar d ≠ ']' ∧ Nat.digitChar d ≠ '%' := by
  decide

theorem appendHex_eq_cons (g : Nat) : ∃ c cs, appendHex g = c :: cs ∧ c ≠ ':' := by
  obtain ⟨c, cs, h⟩ := List.exists_cons_of_ne_nil (appendHex_ne_nil g)
  obtain ⟨d, hd, rfl⟩ := mem_appendHex (h ▸ List.mem_cons_self c cs)
  exact ⟨_, cs, h, (hexDigitChar_ne d hd).1⟩

theorem xtoi_appendHex_colon {g : Nat} (hg : g < 65536) (s : List Char) :
    xtoi (appendHex g ++ ':' :: s) = some (g, (appendHex g).length) :=
  xtoi_appendHex (by simp only [big]; omega) (by
    simp only [List.head?_cons, Option.some.injEq]; rintro _ rfl; decide)

section
variable {ip : IP} {e : Option Nat} {g : Nat} (hg : g < 65536)
include hg

theorem parseIPv6Pass_last : parseIPv6Pass ip e (appendHex g) = .stop (ip ++ groupBytes g) e [] := by
  have hx := @xtoi_appendHex g [] (by simp only [big]; omega) (by simp)
  rw [List.append_nil] at hx
  simp only [parseIPv6Pass, hx, if_neg (show ¬ g > 0xFFFF by omega), List.drop_length]
  rfl

theorem parseIPv6Pass_colon {c : Char} {s : List Char} (hc : c ≠ ':') :
    parseIPv6Pass ip e (appendHex g ++ ':' :: c :: s) = .next (ip ++ groupBytes g) e (c :: s) := by
  simp only [parseIPv6Pass, xtoi_appendHex_colon hg, if_neg (show ¬ g > 0xFFFF by omega),
    List.drop_left, List.head?_cons, Option.some.injEq, reduceCtorEq, ↓reduceIte]
  split <;> simp_all [groupBytes]

theorem parseIPv6Pass_ellipsis {s : List Char} :
    parseIPv6Pass ip none (appendHex g ++ ':' :: ':' :: s) =
      if s = [] then .stop (ip ++ groupBytes g) (some (ip.length + 2)) []
      else .next (ip ++ groupBytes g) (some (ip.length + 2)) s := by
  simp only [parseIPv6Pass, xtoi_appendHex_colon hg, if_neg (show ¬ g > 0xFFFF by omega),
    List.drop_left, List.head?_cons, Option.some.injEq, reduceCtorEq, ↓reduceIte]
  simp [groupBytes]
end

theorem parseIPv6Loop_groups {e : Option Nat} {t : List Char} {fuel : Nat}
    {R : IP → Option (IP × Option Nat × List Char)}
    (last : ∀ g ip, g < 65536 → ip.length < 16 →
      parseIPv6Loop (fuel + 1) ip e (appendHex g ++ t) = R (ip ++ groupBytes g)) :
    ∀ (gs : List Nat) (g : Nat) (ip : IP), g < 65536 → (∀ x ∈ gs, x < 65536) →
      ip.length + 2 * gs.length < 16 →
      parseIPv6Loop (fuel + gs.length + 1) ip e (appendHex g ++ hexGroups true gs ++ t) =
        R (ip ++ (g :: gs).flatMap groupBytes)
  | [], g, ip, hg, _, hl => by simpa [hexGroups] using last g ip hg (by simpa using hl)
  | g' :: gs, g, ip, hg, hgs, hl => by
    obtain ⟨c, cs, hc, hne⟩ := appendHex_eq_cons g'
    have ih := parseIPv6Loop_groups last gs g' (ip ++ groupBytes g) (hgs g' (List.mem_cons_self _ _))
      (fun x hx => hgs x (List.mem_cons_of_mem _ hx)) (by simp [groupBytes] at hl ⊢; omega)
    rw [List.append_assoc] at ih
    rw [List.length_cons, ← Nat.add_assoc, parseIPv6Loop, if_pos (by simp at hl; omega),
      hexGroups, if_pos rfl, List.append_assoc, List.append_assoc, List.singleton_append,
      List.cons_append, hc, List.cons_append, parseIPv6Pass_colon hg hne]
    dsimp only
    rw [← List.cons_append, ← hc, ih, List.flatMap_cons, List.flatMap_cons, List.append_assoc]
    rfl

theorem lt_of_mem_groupList {p : IP} {x : Nat} : ∀ {n i : Nat}, x ∈ groupList p n i → x < 65536
  | 0, _, h => by simp [groupList] at h
  | n + 1, i, h => by
    rcases List.mem_cons.mp h with rfl | h
    · exact group_lt p i
    · exact lt_of_mem_groupList h

theorem parseIPv6Loop_groupList {p : IP} {e : Option Nat} {t : List Char} {fuel : Nat}
    {R : IP → Option (IP × Option Nat × List Char)}
    (last : ∀ g ip, g < 65536 → ip.length < 16 →
      parseIPv6Loop (fuel + 1) ip e (appendHex g ++ t) = R (ip ++ groupBytes g))
    {n i : Nat} {ip : IP} (hi : i + 2 * (n + 1) ≤ p.length) (hl : ip.length + 2 * (n + 1) ≤ 16) :
    parseIPv6Loop (fuel + n + 1) ip e (hexGroups false (groupList p (n + 1) i) ++ t) =
      R (ip ++ (p.drop i).take (2 * (n + 1))) := by
  have h := parseIPv6Loop_groups last (groupList p n (i + 2)) (group p i) ip (group_lt p i)
    (fun x hx => lt_of_mem_groupList hx) (by rw [groupList_length]; omega)
  rw [groupList_length, ← groupList, flatMap_groupBytes hi] at h
  rwa [groupList, hexGroups, if_neg Bool.false_ne_true, List.nil_append]

theorem parseIPv6Loop_last {fuel g : Nat} {ip : IP} {e : Option Nat} (hg : g < 65536)
    (hl : ip.length < 16) :
    parseIPv6Loop (fuel + 1) ip e (appendHex g ++ []) = some (ip ++ groupBytes g, e, []) := by
  rw [List.append_nil, parseIPv6Loop, if_pos hl, parseIPv6Pass_last hg]

theorem parseIPv6Loop_last_ellipsis {fuel g : Nat} {ip : IP} {s : List Char} (hg : g < 65536)
    (hl : ip.length < 16) :
    parseIPv6Loop (fuel + 1) ip none (appendHex g ++ ':' :: ':' :: s) =
      if s = [] then some (ip ++ groupBytes g, some (ip ++ groupBytes g).length, [])
      else parseIPv6Loop fuel (ip ++ groupBytes g) (some (ip ++ groupBytes g).length) s := by
  rw [parseIPv6Loop, if_pos hl, parseIPv6Pass_ellipsis hg]
  by_cases hs : s = [] <;> simp [hs, groupBytes]

theorem head_hexGroups (p : IP) {n : Nat} (hn : 0 < n) (i : Nat) (t : List Char) :
    (hexGroups false (groupList p n i) ++ t).head? ≠ some ':' := by
  obtain ⟨m, rfl⟩ : ∃ m, n = m + 1 := ⟨n - 1, by omega⟩
  obtain ⟨c, cs, hc, hne⟩ := appendHex_eq_cons (group p i)
  simp [groupList, hexGroups, hc, hne]

theorem hexGroups_ne_nil (p : IP) {n : Nat} (hn : 0 < n) (i : Nat) :
    hexGroups false (groupList p n i) ≠ [] := by
  obtain ⟨m, rfl⟩ : ∃ m, n = m + 1 := ⟨n - 1, by omega⟩
  simp [groupList, hexGroups, appendHex_ne_nil]

theorem parseIPv6_of_loop {s : List Char} (hs : s.head? ≠ some ':') {ip : IP} {e : Option Nat}
    (h : parseIPv6Loop 8 [] none s = some (ip, e, [])) :
    (ip.length = 16 → e = none → parseIPv6 s = ip) ∧
    (ip.length < 16 → ∀ k, e = some k →
      parseIPv6 s = ip.take k ++ List.replicate (16 - ip.length) 0 ++ ip.drop k) := by
  unfold parseIPv6
  split
  next heq =>
    split at heq
    · simp at hs
    · cases heq
      simp only [reduceCtorEq, false_and, ↓reduceIte, h, ne_eq, not_true_eq_false]
      refine ⟨fun hl he => by simp [hl, he], fun hl k he => by simp [hl, he]⟩

theorem parseIPv6_of_ellipsis_head {s : List Char} (hs : s ≠ []) {ip : IP}
    (h : parseIPv6Loop 8 [] (some 0) s = some (ip, some 0, [])) (hl : ip.length < 16) :
    parseIPv6 (':' :: ':' :: s) = List.replicate (16 - ip.length) 0 ++ ip := by
  simp [parseIPv6, hs, h, hl]

section
variable {p : IP} (hp : p.length = 16)
include hp

theorem parseIPv6_groups : parseIPv6 (hexGroups false (groupList p 8 0)) = p := by
  have h := @parseIPv6Loop_groupList p none [] 0 (fun ip => some (ip, none, []))
    (fun _ _ hg hl => parseIPv6Loop_last hg hl) 7 0 [] (by omega) (by simp)
  rw [List.append_nil, List.nil_append, List.drop_zero, List.take_of_length_le (by omega)] at h
  exact (parseIPv6_of_loop (by simpa only [List.append_nil] using head_hexGroups p (by decide) 0 [])
    h).1 hp rfl

theorem parseIPv6Loop_tail {b fuel : Nat} {ip : IP} {e : Option Nat} (hb : b < 16)
    (hbe : b % 2 = 0) (hl : ip.length + (16 - b) ≤ 16) (hf : (16 - b) / 2 ≤ fuel) :
    parseIPv6Loop fuel ip e (hexGroups false (groupList p ((16 - b) / 2) b)) =
      some (ip ++ p.drop b, e, []) := by
  obtain ⟨m, hm⟩ : ∃ m, (16 - b) / 2 = m + 1 := ⟨(14 - b) / 2, by omega⟩
  obtain ⟨f, rfl⟩ : ∃ f, fuel = f + m + 1 := ⟨fuel - m - 1, by omega⟩
  have h := @parseIPv6Loop_groupList p e [] f (fun ip => some (ip, e, []))
    (fun _ _ hg hl => parseIPv6Loop_last hg hl) m b ip (by omega) (by omega)
  rwa [List.append_nil, List.take_of_length_le (by simp; omega), ← hm] at h

theorem parseIPv6Loop_head {a : Nat} {s : List Char} (ha : 0 < a) (hae : a % 2 = 0)
    (ha16 : a < 16) :
    parseIPv6Loop 8 [] none (hexGroups false (groupList p (a / 2) 0) ++ ':' :: ':' :: s) =
      if s = [] then some (p.take a, some a, [])
      else parseIPv6Loop (8 - a / 2) (p.take a) (some a) s := by
  obtain ⟨m, hm⟩ : ∃ m, a / 2 = m + 1 := ⟨a / 2 - 1, by omega⟩
  have hla : (p.take a).length = a := by simp; omega
  have h := @parseIPv6Loop_groupList p none _ (7 - m) (fun ip' => if s = [] then
      some (ip', some ip'.length, []) else parseIPv6Loop (7 - m) ip' (some ip'.length) s)
    (fun _ _ hg hl => parseIPv6Loop_last_ellipsis hg hl) m 0 [] (by omega) (by simp; omega)
  dsimp only at h
  rw [show 7 - m + m + 1 = 8 by omega, show 7 - m = 8 - a / 2 by omega, ← hm,
    show 2 * (a / 2) = a by omega, List.nil_append, List.drop_zero, hla] at h
  exact h

theorem parseIPv6_groups_run {a b : Nat} (hr : ZeroRun p a b) (hab : a + 2 < b) :
    parseIPv6 (hexGroups false (groupList p (a / 2) 0) ++
      ':' :: ':' :: hexGroups false (groupList p ((16 - b) / 2) b)) = p := by
  have ⟨_, hb, hae, hbe, _⟩ := hr
  have hfill := hr.fill
  have hpost : b < 16 → 0 < (16 - b) / 2 := by omega
  rcases Nat.eq_zero_or_pos a with rfl | ha <;> rcases Nat.lt_or_ge b 16 with hb16 | hb16
  · -- `::` and the groups after the run
    rw [show 0 / 2 = 0 from rfl, groupList, hexGroups, List.nil_append,
      parseIPv6_of_ellipsis_head (hexGroups_ne_nil p (hpost hb16) b)
        (parseIPv6Loop_tail hp hb16 hbe (by simp) (by omega)) (by simp; omega),
      List.nil_append, List.length_drop, hp, show 16 - (16 - b) = b by omega]
    simpa only [List.take_zero, Nat.sub_zero, List.nil_append] using hfill
  · -- `::` alone
    obtain rfl : b = 16 := by omega
    show parseIPv6 [':', ':'] = p
    rw [show parseIPv6 [':', ':'] = List.replicate 16 0 by decide]
    simpa only [List.take_zero, Nat.sub_zero, List.nil_append, List.drop_of_length_le hp.le,
      List.append_nil] using hfill
  · -- the groups before the run, `::` and the groups after it
    have hl := parseIPv6Loop_head hp (s := hexGroups false (groupList p ((16 - b) / 2) b)) ha hae
      (by omega)
    rw [if_neg (hexGroups_ne_nil p (hpost hb16) b),
      parseIPv6Loop_tail hp hb16 hbe (by simp; omega) (by omega)] at hl
    have hla : (p.take a).length = a := by simp; omega
    rw [(parseIPv6_of_loop (head_hexGroups p (by omega) 0 _) hl).2 (by simp; omega) a rfl,
      List.take_left' hla, List.drop_left' hla, List.length_append, hla, List.length_drop, hp,
      show 16 - (a + (16 - b)) = b - a by omega]
    exact hfill
  · -- the groups before the run and `::` at the end
    obtain rfl : b = 16 := by omega
    have hl := parseIPv6Loop_head hp (s := []) ha hae (by omega)
    rw [if_pos rfl] at hl
    have hla : (p.take a).length = a := by simp; omega
    rw [show hexGroups false (groupList p ((16 - 16) / 2) 16) = [] from rfl,
      (parseIPv6_of_loop (head_hexGroups p (by omega) 0 _) hl).2 (by omega) a rfl,
      List.take_of_length_le hla.le, List.drop_of_length_le hla.le, hla]
    simpa only [List.drop_of_length_le hp.le, List.append_nil] using hfill

theorem IP.string_of_v6 (h4 : p.to4.length ≠ 4) :
    p.string.toList = hexGroups false (groupList p 8 0) ∨
    ∃ a b, ZeroRun p a b ∧ a + 2 < b ∧ p.string.toList = hexGroups false (groupList p (a / 2) 0) ++
      ':' :: ':' :: hexGroups false (groupList p ((16 - b) / 2) b) := by
  have hf := longestZeroRun_found hp 8 0 (-1) (-1) rfl (.inl rfl)
  have hnone : printGroups p (-1) (-1) 8 0 = hexGroups false (groupList p 8 0) :=
    printGroups_of_lt 8 0 8 rfl le_rfl (by omega)
  unfold IP.string
  rw [if_neg (by omega), if_neg h4, if_neg (by omega)]
  generalize longestZeroRun p 8 0 (-1) (-1) = r at hf
  rcases hf with rfl | ⟨a, b, rfl, hab, hz⟩
  · exact .inl hnone
  · dsimp only
    split
    · exact .inl hnone
    · next hgt =>
      refine .inr ⟨a, b, hz, by omega, ?_⟩
      exact printGroups_run (p := p) hab hz.2.1 hz.2.2.2.1 (a / 2) 0 8
        (by have := hz.2.2.1; omega) (by omega)

theorem IP.mem_string_of_v6 (h4 : p.to4.length ≠ 4) :
    (∀ c ∈ p.string.toList, c = ':' ∨ ∃ d < 16, c = Nat.digitChar d) ∧ ':' ∈ p.string.toList := by
  rcases IP.string_of_v6 hp h4 with h | ⟨a, b, -, -, h⟩ <;> rw [h]
  · refine ⟨fun c hc => mem_hexGroups hc, ?_⟩
    simp [groupList, hexGroups]
  · refine ⟨fun c hc => ?_, by simp⟩
    simp only [List.mem_append, List.mem_cons] at hc
    rcases hc with hc | hc | hc | hc
    · exact mem_hexGroups hc
    · exact .inl hc
    · exact .inl hc
    · exact mem_hexGroups hc

theorem parseIP_string_of_v6 (h4 : p.to4.length ≠ 4) : parseIP p.string = p := by
  obtain ⟨hmem, hc⟩ := IP.mem_string_of_v6 hp h4
  have hf : p.string.toList.find? (fun c => c = '.' ∨ c = ':') = some ':' := by
    cases hx : p.string.toList.find? (fun c => c = '.' ∨ c = ':') with
    | none => exact absurd ((List.find?_eq_none.mp hx) ':' hc) (by decide)
    | some x =>
      have hp' := List.find?_some hx
      rcases hmem x (List.mem_of_find?_eq_some hx) with rfl | ⟨d, hd, rfl⟩
      · rfl
      · have := hexDigitChar_ne d hd
        simp [this.1, this.2.1] at hp'
  unfold parseIP
  rw [hf]
  rcases IP.string_of_v6 hp h4 with h | ⟨a, b, hz, hab, h⟩ <;> rw [h]
  · exact parseIPv6_groups hp
  · exact parseIPv6_groups_run hp hz hab

end

section
variable {ip : IP} (h : ip.length = 4 ∨ ip.length = 16)
include h

theorem IP.length_of_to4_ne (h4 : ip.to4.length ≠ 4) : ip.length = 16 :=
  h.resolve_left fun h' => h4 (by simp [IP.to4, h'])

theorem parseIP_string : parseIP ip.string = ip.to16 := by
  by_cases h4 : ip.to4.length = 4
  · rw [parseIP_string_of_to4 h4]
    rcases h with h | h
    · simp [IP.to4, IP.to16, h]
    · have hp : ip.take 12 = v4InV6Prefix := by
        by_contra hne; simp [IP.to4, h, hne] at h4
      simp only [IP.to4, IP.to16, h, hp, true_and, show (16 : Nat) ≠ 4 by decide, if_false,
        if_true]
      rw [← hp, List.take_append_drop]
  · have h16 := IP.length_of_to4_ne h h4
    rw [parseIP_string_of_v6 h16 h4, IP.to16, if_neg (by omega), if_pos h16]

theorem IP.string_ne_empty_not_bracket :
    ip.string ≠ "" ∧ ∀ c ∈ ip.string.toList, c ≠ '[' ∧ c ≠ ']' := by
  by_cases h4 : ip.to4.length = 4
  · obtain ⟨a, b, c, d, h4'⟩ := IP.to4_eq_cons h4
    refine ⟨fun he => ?_, fun c hc => ⟨(IP.not_sep_of_mem_string h4 hc).2.1,
      (IP.not_sep_of_mem_string h4 hc).2.2⟩⟩
    have := congrArg String.toList he
    rw [IP.string_of_to4 h4'] at this
    simp at this
  · obtain ⟨hmem, hc⟩ := IP.mem_string_of_v6 (IP.length_of_to4_ne h h4) h4
    refine ⟨fun he => by simp [he] at hc, fun c hc' => ?_⟩
    rcases hmem c hc' with rfl | ⟨d, hd, rfl⟩
    · decide
    · exact ⟨(hexDigitChar_ne d hd).2.2.1, (hexDigitChar_ne d hd).2.2.2.1⟩
end

/-! ### What `ParseIP` accepts -/

/-- The characters an address `ParseIP` accepts is written with: hexadecimal digits, `:` and `.`. -/
def IPChar (c : Char) : Prop := hexDigit c ≠ none ∨ c = ':' ∨ c = '.'

instance (c : Char) : Decidable (IPChar c) := by unfold IPChar; infer_instance

theorem digitsLoop_take {base : Nat} {digit : Char → Option Nat} :
    ∀ {s : List Char} {n i n' i' : Nat}, digitsLoop base digit n i s = some (n', i') →
      i ≤ i' ∧ ∀ c ∈ s.take (i' - i), digit c ≠ none
  | [], n, i, n', i', h => by
    simp only [digitsLoop] at h
    split at h <;> simp_all
  | c :: s, n, i, n', i', h => by
    simp only [digitsLoop] at h
    split at h
    · next d hd =>
      split at h
      · cases h
      · obtain ⟨hle, hs⟩ := digitsLoop_take h
        refine ⟨by omega, fun x hx => ?_⟩
        rw [show i' - i = (i' - (i + 1)) + 1 by omega, List.take_succ_cons] at hx
        rcases List.mem_cons.mp hx with rfl | hx
        · simp [hd]
        · exact hs x hx
    · split at h <;> simp_all

theorem hexDigit_of_decimalDigit {c : Char} (h : decimalDigit c ≠ none) : hexDigit c ≠ none := by
  unfold decimalDigit at h
  unfold hexDigit
  split at h
  · next hc => simp [hc]
  · simp at h

theorem parseIPv4Octets_prefix : ∀ {k i : Nat} {s t : List Char} {p : IP},
    parseIPv4Octets k i s = some (p, t) → ∃ pre, s = pre ++ t ∧ ∀ c ∈ pre, IPChar c
  | 0, _, s, t, p, h => by
    simp only [parseIPv4Octets, Option.some.injEq, Prod.mk.injEq] at h
    exact ⟨[], by simp [h.2], by simp⟩
  | k + 1, i, s, t, p, h => by
    simp only [parseIPv4Octets] at h
    rw [if_neg (by rintro rfl; simp at h)] at h
    generalize hd : (if i > 0 then _ else some s) = dot at h
    rcases dot with _ | s1
    · cases h
    -- the dot before every octet but the first
    obtain ⟨pre, rfl, hpre⟩ : ∃ pre, s = pre ++ s1 ∧ ∀ c ∈ pre, IPChar c := by
      split at hd
      · split at hd
        · cases hd; exact ⟨['.'], rfl, by simp [IPChar]⟩
        · cases hd
      · cases hd; exact ⟨[], rfl, by simp⟩
    rcases hdt : dtoi s1 with _ | ⟨n, c⟩ <;> simp only [hdt] at h
    · cases h
    split_ifs at h
    obtain ⟨⟨p', t'⟩, h', he⟩ := Option.map_eq_some'.mp h
    cases he
    obtain ⟨pre', hs', hpre'⟩ := parseIPv4Octets_prefix h'
    have hdig := (digitsLoop_take hdt).2
    refine ⟨pre ++ s1.take c ++ pre', ?_, ?_⟩
    · rw [List.append_assoc, List.append_assoc, ← hs', List.take_append_drop]
    · intro x hx
      rcases List.mem_append.mp hx with hx | hx
      · rcases List.mem_append.mp hx with hx | hx
        · exact hpre x hx
        · exact .inl (hexDigit_of_decimalDigit (hdig x (by simpa using hx)))
      · exact hpre' x hx

theorem parseIPv4_allowed {s : List Char} (h : parseIPv4 s ≠ []) : ∀ c ∈ s, IPChar c := by
  unfold parseIPv4 at h
  split at h
  · next hp =>
    obtain ⟨pre, rfl, hpre⟩ := parseIPv4Octets_prefix hp
    simpa using hpre
  · exact absurd rfl h

def IPv6Pass.rest : IPv6Pass → Option (List Char)
  | .reject => none
  | .stop _ _ s => some s
  | .next _ _ s => some s

theorem parseIPv6Pass_prefix {ip : IP} {e : Option Nat} {s t : List Char}
    (h : (parseIPv6Pass ip e s).rest = some t) : ∃ pre, s = pre ++ t ∧ ∀ c ∈ pre, IPChar c := by
  unfold parseIPv6Pass at h
  split at h
  · cases h
  · next n c hx =>
    -- the group, then separators
    have hsep : ∀ k s', s.drop c = k ++ s' → (∀ x ∈ k, IPChar x) →
        ∃ pre, s = pre ++ s' ∧ ∀ x ∈ pre, IPChar x := fun k s' hs hk =>
      ⟨s.take c ++ k, by rw [List.append_assoc, ← hs, List.take_append_drop], fun x hx' => by
        rcases List.mem_append.mp hx' with hx' | hx'
        · exact .inl ((digitsLoop_take hx).2 x (by simpa using hx'))
        · exact hk x hx'⟩
    have hcolon : ∀ x ∈ [':', ':'], IPChar x := by simp [IPChar]
    split at h
    · cases h
    split at h
    · split_ifs at h
      · cases h
      · cases h
      · split at h
        · cases h
        · next hne =>
          cases h
          exact ⟨s, by simp, parseIPv4_allowed hne⟩
    · dsimp only at h
      split at h
      · next hs => cases h; exact hsep [] [] (by simp [hs]) (by simp)
      · cases h
      · next s' hs =>
        split_ifs at h with _ h2 <;> cases h
        · exact hsep [':', ':'] [] (by simp [hs, h2]) hcolon
        · exact hsep [':', ':'] t (by simp [hs]) hcolon
      · cases h; exact hsep [':'] t (by simp [‹List.drop c s = ':' :: t›]) (by simp [IPChar])
      · cases h

theorem parseIPv6Loop_prefix : ∀ {fuel : Nat} {ip : IP} {e : Option Nat} {s : List Char}
    {ip' : IP} {e' : Option Nat} {t : List Char},
    parseIPv6Loop fuel ip e s = some (ip', e', t) → ∃ pre, s = pre ++ t ∧ ∀ c ∈ pre, IPChar c
  | 0, _, _, s, _, _, t, h => by
    simp only [parseIPv6Loop, Option.some.injEq, Prod.mk.injEq] at h
    exact ⟨[], by simp [h.2.2], by simp⟩
  | fuel + 1, ip, e, s, ip', e', t, h => by
    simp only [parseIPv6Loop] at h
    split_ifs at h
    · split at h
      · cases h
      · next hp =>
        cases h
        exact parseIPv6Pass_prefix (t := t) (by rw [hp]; rfl)
      · next s' hp =>
        obtain ⟨pre, rfl, hpre⟩ := parseIPv6Pass_prefix (t := s') (by rw [hp]; rfl)
        obtain ⟨pre', rfl, hpre'⟩ := parseIPv6Loop_prefix h
        exact ⟨pre ++ pre', by simp, fun x hx => by
          rcases List.mem_append.mp hx with hx | hx
          · exact hpre x hx
          · exact hpre' x hx⟩
    · cases h
      exact ⟨[], by simp, by simp⟩

theorem parseIPv6_allowed {s : List Char} (h : parseIPv6 s ≠ []) : ∀ c ∈ s, IPChar c := by
  unfold parseIPv6 at h
  split at h
  next e s1 heq =>
    -- the leading `::` is read first
    obtain ⟨k, rfl, hk⟩ : ∃ k, s = k ++ s1 ∧ ∀ c ∈ k, IPChar c := by
      split at heq
      · cases heq; exact ⟨[':', ':'], rfl, by simp [IPChar]⟩
      · cases heq; exact ⟨[], rfl, by simp⟩
    have hs1 : ∀ c ∈ s1, IPChar c := by
      split_ifs at h with h0
      · simp [h0.2]
      · split at h
        · exact absurd rfl h
        · next ip e' t hl =>
          split_ifs at h with ht
          all_goals first
            | exact absurd rfl h
            | (obtain ⟨pre, rfl, hpre⟩ := parseIPv6Loop_prefix hl
               simp only [ne_eq, Decidable.not_not] at ht
               simpa [ht] using hpre)
    intro c hc
    rcases List.mem_append.mp hc with hc | hc
    · exact hk c hc
    · exact hs1 c hc

theorem parseIP_allowed {s : String} (h : parseIP s ≠ []) : ∀ c ∈ s.toList, IPChar c := by
  unfold parseIP at h
  split at h
  · exact parseIPv4_allowed h
  · exact parseIPv6_allowed h
  · exact absurd rfl h

end Frp.Go
