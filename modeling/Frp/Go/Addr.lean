import Frp.Go.Basic
import Frp.Go.Net
import Mathlib.Data.BitVec
import Mathlib.Data.Nat.Digits

/-! How Go prints the addresses the server sends its clients: `strconv.Atoi`, `IP.String`,
`JoinHostPort` and `TCPAddr.String`. -/
namespace Frp.Go

/-! ### `strconv.Atoi`, with the value it returns beside an error -/

inductive NumError where
  | errSyntax | errRange
  deriving DecidableEq

/-- The loop of `strconv.ParseUint(s, 10, 0)` on a 64-bit platform, from the value `n` read so
far: the value, or the error it stops at: a syntax error at a character that is not a digit, a
range error once the value passes `maxUint64`, whichever comes first. -/
def parseUintLoop (n : Nat) : List Char → Except NumError Nat
  | [] => .ok n
  | c :: s =>
    if c.isDigit then
      let n := 10 * n + (c.toNat - '0'.toNat)
      if n > 0xFFFFFFFFFFFFFFFF then .error .errRange else parseUintLoop n s
    else .error .errSyntax

def pickSign : List Char → Bool × List Char
  | '+' :: ds => (false, ds)
  | '-' :: ds => (true, ds)
  | ds => (false, ds)

/-- `strconv.Atoi(s)` on a 64-bit platform: the `int` it returns and its error. After a syntax
error the value is `0`; after a range error it is the bound of `int64` on the side of the sign. -/
def atoi (s : String) : Int × Option NumError :=
  let (neg, ds) := pickSign s.toList
  match (if ds = [] then .error .errSyntax else parseUintLoop 0 ds : Except NumError Nat) with
  | .error .errSyntax => (0, some .errSyntax)
  | .error .errRange => (if neg then -2 ^ 63 else 2 ^ 63 - 1, some .errRange)
  | .ok un =>
    if !neg ∧ un ≥ 2 ^ 63 then (2 ^ 63 - 1, some .errRange)
    else if neg ∧ un > 2 ^ 63 then (-2 ^ 63, some .errRange)
    else (if neg then -un else un, none)

/-! ### Printing addresses: `IP.String`, `JoinHostPort`, `TCPAddr.String` -/

def uitoa (val : Nat) : String := (Nat.toDigits 10 val).asString

def itoa (val : Int) : String :=
  if val < 0 then "-" ++ uitoa val.natAbs else uitoa val.toNat

def hexString (b : IP) : String :=
  String.mk (b.flatMap fun tn => [Nat.digitChar (tn.toNat / 16), Nat.digitChar (tn.toNat % 16)])

/-- `appendHex`: the hexadecimal digits of `i` from its highest non-zero nibble (nibble `j` of
the loop `for j := 7; j >= 0; j--` is printed when `i >> (j*4) > 0`), `0` for zero. -/
def appendHex (i : Nat) : List Char :=
  if i = 0 then ['0']
  else ((List.range 8).reverse.filter fun j => i >>> (j * 4) > 0).map
    fun j => Nat.digitChar ((i >>> (j * 4)) % 16)

def group (p : IP) (i : Nat) : Nat := (p.getD i 0).toNat * 256 + (p.getD (i + 1) 0).toNat

/-- The inner loop of `IP.String`'s search: from byte `j`, the end of the run of zero groups. -/
def zeroRunEnd (p : IP) : Nat → Nat → Nat
  | 0, j => j
  | fuel + 1, j => if j < 16 ∧ p.getD j 0 = 0 ∧ p.getD (j + 1) 0 = 0 then zeroRunEnd p fuel (j + 2) else j

/-- The search of `IP.String` for the longest run of zero groups, from byte `i` with the run
`(e0, e1)` found so far; a run found moves `i` to its end. -/
def longestZeroRun (p : IP) : Nat → Nat → Int → Int → Int × Int
  | 0, _, e0, e1 => (e0, e1)
  | fuel + 1, i, e0, e1 =>
    if i < 16 then
      let j := zeroRunEnd p 8 i
      if j > i ∧ (j : Int) - i > e1 - e0 then longestZeroRun p fuel (j + 2) i j
      else longestZeroRun p fuel (i + 2) e0 e1
    else (e0, e1)

/-- The printing loop of `IP.String` from byte `i`: the groups separated by `:`, with `::` in
place of the run `(e0, e1)`. -/
def printGroups (p : IP) (e0 e1 : Int) : Nat → Nat → List Char
  | 0, _ => []
  | fuel + 1, i =>
    if i < 16 then
      if (i : Int) = e0 then
        if e1.toNat ≥ 16 then [':', ':']
        else ':' :: ':' :: appendHex (group p e1.toNat) ++ printGroups p e0 e1 fuel (e1.toNat + 2)
      else (if i > 0 then [':'] else []) ++ appendHex (group p i) ++ printGroups p e0 e1 fuel (i + 2)
    else []

/-- `IP.String`: `<nil>` for no IP, dotted decimal for an IPv4 address by `To4`, `?` and the
bytes in hexadecimal for an IP of neither length, otherwise the eight groups in hexadecimal with
the first longest run of two or more zero groups written `::`. -/
def IP.string (ip : IP) : String :=
  if ip.length = 0 then "<nil>"
  else
    let p4 := ip.to4
    if p4.length = 4 then
      uitoa (p4.getD 0 0).toNat ++ "." ++ uitoa (p4.getD 1 0).toNat ++ "." ++
        uitoa (p4.getD 2 0).toNat ++ "." ++ uitoa (p4.getD 3 0).toNat
    else if ip.length ≠ 16 then "?" ++ hexString ip
    else
      let (e0, e1) := longestZeroRun ip 8 0 (-1) (-1)
      let (e0, e1) := if e1 - e0 ≤ 2 then (-1, -1) else (e0, e1)
      String.mk (printGroups ip e0 e1 8 0)

def ipEmptyString (ip : IP) : String := if ip.length = 0 then "" else ip.string

/-- `JoinHostPort`: a host with a colon is taken for an IPv6 literal and bracketed. -/
def joinHostPort (host port : String) : String :=
  if ':' ∈ host.toList then "[" ++ host ++ "]:" ++ port else host ++ ":" ++ port

/-- The address frp builds with `fmt.Sprintf("%s:%d", host, port)`: no bracket is added, unlike
`JoinHostPort`. -/
def sprintfAddr (host : String) (port : Int) : String := host ++ ":" ++ toString port

structure TCPAddr where
  ip : IP
  port : Int
  zone : String := ""
  deriving DecidableEq

def TCPAddr.string (a : TCPAddr) : String :=
  let ip := ipEmptyString a.ip
  if a.zone ≠ "" then joinHostPort (ip ++ "%" ++ a.zone) (itoa a.port)
  else joinHostPort ip (itoa a.port)

example : (TCPAddr.string ⟨[192, 168, 0, 1], 5000, ""⟩) = "192.168.0.1:5000" := by decide
example : (TCPAddr.string ⟨List.replicate 15 0 ++ [1], 80, ""⟩) = "[::1]:80" := by decide
example : IP.string [0x20, 1, 0x0d, 0xb8, 0, 0, 0, 0, 0, 1, 0, 0, 0, 0, 0, 1] = "2001:db8::1:0:0:1" := by decide
example : atoi "99999999999999999999x" = (2 ^ 63 - 1, some .errRange) ∧
    atoi "12x" = (0, some .errSyntax) ∧ atoi "-7" = (-7, none) := by decide

/-! ### Decimal digits read back -/

theorem toDigitsCore_acc (b : Nat) : ∀ (f n : Nat) (ds : List Char),
    Nat.toDigitsCore b f n ds = Nat.toDigitsCore b f n [] ++ ds
  | 0, _, _ => rfl
  | f + 1, n, ds => by
    simp only [Nat.toDigitsCore]
    split
    · rfl
    · rw [toDigitsCore_acc b f _ (_ :: ds), toDigitsCore_acc b f _ [_]]
      simp

theorem toDigitsCore_fuel {b : Nat} (hb : 2 ≤ b) : ∀ {f f' n : Nat} (ds : List Char),
    n < f → n < f' → Nat.toDigitsCore b f n ds = Nat.toDigitsCore b f' n ds
  | 0, _, _, _, h, _ => absurd h (Nat.not_lt_zero _)
  | _, 0, _, _, _, h => absurd h (Nat.not_lt_zero _)
  | f + 1, f' + 1, n, ds, h, h' => by
    simp only [Nat.toDigitsCore]
    split
    · rfl
    · next hn =>
      have : n / b < n := Nat.div_lt_self (Nat.pos_of_ne_zero (by rintro rfl; simp at hn)) (by omega)
      exact toDigitsCore_fuel hb _ (by omega) (by omega)

theorem toDigits_eq {b : Nat} (hb : 2 ≤ b) (v : Nat) : Nat.toDigits b v =
    (if v < b then [] else Nat.toDigits b (v / b)) ++ [Nat.digitChar (v % b)] := by
  unfold Nat.toDigits
  rw [Nat.toDigitsCore]
  split
  · next h => rw [if_pos ((Nat.div_eq_zero_iff (by omega)).mp h)]; rfl
  · next h =>
    have hv : v / b < v := Nat.div_lt_self (Nat.pos_of_ne_zero (by rintro rfl; simp at h)) (by omega)
    rw [if_neg (fun hl => h (Nat.div_eq_of_lt hl)), toDigitsCore_acc,
      @toDigitsCore_fuel b hb v (v / b + 1) (v / b) [] (by omega) (by omega)]

theorem toDigits_length_pos (b v : Nat) : 0 < (Nat.toDigits b v).length := by
  unfold Nat.toDigits
  rw [Nat.toDigitsCore]
  split
  · simp
  · rw [toDigitsCore_acc]; simp

theorem toDigits_loop {α : Type} {b bound : Nat} (hb : 2 ≤ b) {F : Nat → Nat → List Char → α}
    (hstep : ∀ n i d s, d < b → b * n + d ≤ bound →
      F n i (Nat.digitChar d :: s) = F (b * n + d) (i + 1) s)
    (v : Nat) {n i : Nat} (rest : List Char)
    (hv : b ^ (Nat.toDigits b v).length * n + v ≤ bound) :
    F n i (Nat.toDigits b v ++ rest) =
      F (b ^ (Nat.toDigits b v).length * n + v) (i + (Nat.toDigits b v).length) rest := by
  induction v using Nat.strong_induction_on generalizing n i rest with
  | _ v ih =>
    have hmod : v % b < b := Nat.mod_lt _ (by omega)
    rw [toDigits_eq hb] at hv ⊢
    by_cases h : v < b
    · rw [if_pos h, Nat.mod_eq_of_lt h] at hv ⊢
      simp only [List.nil_append, List.singleton_append, List.length_singleton,
        Nat.pow_one] at hv ⊢
      exact hstep n i v rest h hv
    · rw [if_neg h] at hv ⊢
      have hdiv := Nat.div_add_mod v b
      have hlt : v / b < v := Nat.div_lt_self (by omega) (by omega)
      rw [List.length_append, List.length_singleton, Nat.pow_succ, Nat.mul_comm _ b,
        Nat.mul_assoc] at hv ⊢
      have hX : b ^ (Nat.toDigits b (v / b)).length * n + v / b ≤
          b * (b ^ (Nat.toDigits b (v / b)).length * n) + b * (v / b) :=
        Nat.add_le_add (Nat.le_mul_of_pos_left _ (by omega)) (Nat.le_mul_of_pos_left _ (by omega))
      have hsum : b * (b ^ (Nat.toDigits b (v / b)).length * n + v / b) + v % b =
          b * (b ^ (Nat.toDigits b (v / b)).length * n) + v := by
        rw [Nat.mul_add, Nat.add_assoc, hdiv]
      rw [List.append_assoc, List.singleton_append, ih (v / b) hlt _ (by omega),
        hstep _ _ _ _ hmod (by rw [hsum]; omega), hsum, Nat.add_assoc]

theorem digitChar_of_lt : ∀ d, d < 16 →
    (d < 10 → (Nat.digitChar d).isDigit = true ∧ (Nat.digitChar d).toNat - '0'.toNat = d ∧
      decimalDigit (Nat.digitChar d) = some d) ∧ hexDigit (Nat.digitChar d) = some d := by
  decide

theorem dtoi_toDigits {v : Nat} {rest : List Char} (hv : v < big)
    (hr : ∀ c, rest.head? = some c → decimalDigit c = none) :
    dtoi (Nat.toDigits 10 v ++ rest) = some (v, (Nat.toDigits 10 v).length) := by
  have hk := toDigits_length_pos 10 v
  unfold dtoi
  rw [@toDigits_loop _ 10 (big - 1) (by omega) (digitsLoop 10 decimalDigit)
    (fun n i d s hd hn => by
      rw [digitsLoop, ((digitChar_of_lt d (by omega)).1 hd).2.2]
      dsimp only
      rw [if_neg (by omega), Nat.mul_comm]) v 0 0 rest (by omega),
    Nat.mul_zero, Nat.zero_add, Nat.zero_add]
  cases rest with
  | nil => simp [digitsLoop, hk.ne']
  | cons c rest => simp [digitsLoop, hr c rfl, hk.ne']

theorem mem_toDigits {b : Nat} (hb : 2 ≤ b) {v : Nat} {c : Char} (h : c ∈ Nat.toDigits b v) :
    ∃ d < b, c = Nat.digitChar d := by
  induction v using Nat.strong_induction_on with
  | _ v ih =>
    rw [toDigits_eq hb] at h
    rcases List.mem_append.mp h with h | h
    · split at h
      · simp at h
      · exact ih (v / b) (Nat.div_lt_self (by omega) (by omega)) h
    · exact ⟨v % b, Nat.mod_lt _ (by omega), List.mem_singleton.mp h⟩

theorem digitChar_ne : ∀ d, d < 10 →
    Nat.digitChar d ≠ '.' ∧ Nat.digitChar d ≠ ':' ∧ Nat.digitChar d ≠ '[' ∧
      Nat.digitChar d ≠ ']' ∧ Nat.digitChar d ≠ '+' ∧ Nat.digitChar d ≠ '-' := by
  decide

theorem parseUintLoop_toDigits {v : Nat} (hv : v ≤ 0xFFFFFFFFFFFFFFFF) :
    parseUintLoop 0 (Nat.toDigits 10 v) = .ok v := by
  have := @toDigits_loop _ 10 0xFFFFFFFFFFFFFFFF (by omega) (fun n _ s => parseUintLoop n s)
    (fun n i d s hd hn => by
      obtain ⟨h1, h2, -⟩ := (digitChar_of_lt d (by omega)).1 hd
      simp only [parseUintLoop, h1, h2, if_true]
      rw [if_neg (by omega)]) v 0 0 [] (by simpa using hv)
  simpa [parseUintLoop] using this

theorem atoi_uitoa {v : Nat} (hv : v < 2 ^ 63) : atoi (uitoa v) = ((v : Int), none) := by
  obtain ⟨c, cs, hcs⟩ : ∃ c cs, Nat.toDigits 10 v = c :: cs :=
    List.exists_cons_of_length_pos (toDigits_length_pos 10 v)
  obtain ⟨d, hd, rfl⟩ := mem_toDigits (by omega) (hcs ▸ List.mem_cons_self c cs)
  have hne := digitChar_ne d (by omega)
  have hp := @parseUintLoop_toDigits v (by omega)
  rw [hcs] at hp
  have hs : pickSign (Nat.digitChar d :: cs) = (false, Nat.digitChar d :: cs) := by
    unfold pickSign; split <;> simp_all
  unfold atoi uitoa
  simp only [List.asString, String.toList, hcs, hs, reduceCtorEq, if_false, hp]
  rw [if_neg (by simp; omega), if_neg (by simp)]

theorem toUInt8_toNat (x : UInt8) : x.toNat.toUInt8 = x := by
  apply UInt8.eq_of_val_eq; simp [Nat.toUInt8, UInt8.ofNat, UInt8.toNat]

theorem parseIPv4Octets_octet {k i : Nat} (x : UInt8) {rest : List Char}
    (hr : ∀ c, rest.head? = some c → decimalDigit c = none) :
    parseIPv4Octets (k + 1) (i + 1) ('.' :: (Nat.toDigits 10 x.toNat ++ rest)) =
      (parseIPv4Octets k (i + 2) rest).map (fun (p, s) => (x :: p, s)) ∧
    parseIPv4Octets (k + 1) 0 (Nat.toDigits 10 x.toNat ++ rest) =
      (parseIPv4Octets k 1 rest).map fun (p, s) => (x :: p, s) := by
  have hx : x.toNat < 256 := x.toBitVec.isLt
  have hd := @dtoi_toDigits x.toNat rest (by simp only [big]; omega) hr
  have hne : Nat.toDigits 10 x.toNat ≠ [] := List.ne_nil_of_length_pos (toDigits_length_pos 10 _)
  constructor
  · simp only [parseIPv4Octets, Nat.succ_pos, ↓reduceIte, List.cons_ne_nil, hd]
    rw [if_neg (by omega), List.drop_left, toUInt8_toNat]
  · simp only [parseIPv4Octets, Nat.lt_irrefl, ↓reduceIte, List.append_eq_nil, hne,
      false_and, hd]
    rw [if_neg (by omega), List.drop_left, toUInt8_toNat]

theorem not_sep_of_mem_toDigits {v : Nat} {ch : Char} (h : ch ∈ Nat.toDigits 10 v) :
    ch ≠ '.' ∧ ch ≠ ':' ∧ ch ≠ '[' ∧ ch ≠ ']' ∧ ch ≠ '+' ∧ ch ≠ '-' := by
  obtain ⟨d, hd, rfl⟩ := mem_toDigits (by omega) h
  exact digitChar_ne d hd

theorem parseIPv4_dotted (a b c d : UInt8) :
    parseIPv4 (Nat.toDigits 10 a.toNat ++ '.' :: (Nat.toDigits 10 b.toNat ++ '.' ::
      (Nat.toDigits 10 c.toNat ++ '.' :: Nat.toDigits 10 d.toNat))) = v4InV6Prefix ++ [a, b, c, d] := by
  have hdot' : ∀ {l : List Char} ch, ('.' :: l).head? = some ch → decimalDigit ch = none := by
    simp only [List.head?_cons, Option.some.injEq]; rintro _ _ rfl; decide
  rw [← List.append_nil (Nat.toDigits 10 d.toNat)]
  unfold parseIPv4
  rw [(parseIPv4Octets_octet (i := 0) a hdot').2, (parseIPv4Octets_octet b hdot').1,
    (parseIPv4Octets_octet c hdot').1, (parseIPv4Octets_octet d (by simp)).1]
  rfl

theorem IP.to4_eq_cons {ip : IP} (h : ip.to4.length = 4) :
    ∃ a b c d, ip.to4 = [a, b, c, d] := by
  match hp : ip.to4, h with
  | [a, b, c, d], _ => exact ⟨a, b, c, d, rfl⟩

theorem IP.length_ne_zero_of_to4 {ip : IP} (h : ip.to4.length = 4) : ip.length ≠ 0 := by
  intro h0
  rw [List.length_eq_zero.mp h0] at h
  simp [IP.to4] at h

theorem IP.string_of_to4 {ip : IP} {a b c d : UInt8} (h : ip.to4 = [a, b, c, d]) :
    ip.string.toList = Nat.toDigits 10 a.toNat ++ '.' :: (Nat.toDigits 10 b.toNat ++ '.' ::
      (Nat.toDigits 10 c.toNat ++ '.' :: Nat.toDigits 10 d.toNat)) := by
  have hl : ip.to4.length = 4 := by rw [h]; rfl
  simp only [IP.string, IP.length_ne_zero_of_to4 hl, ↓reduceIte, h, List.length_cons,
    List.length_nil, List.getD_cons_zero, List.getD_cons_succ, uitoa]
  simp [String.toList, List.asString]

theorem parseIP_string_of_to4 {ip : IP} (h : ip.to4.length = 4) :
    parseIP ip.string = v4InV6Prefix ++ ip.to4 := by
  obtain ⟨a, b, c, d, h4⟩ := IP.to4_eq_cons h
  have hs := IP.string_of_to4 h4
  have hf : (Nat.toDigits 10 a.toNat).find? (fun c => c = '.' ∨ c = ':') = none :=
    List.find?_eq_none.mpr fun ch hc => by
      have := not_sep_of_mem_toDigits hc
      simp [this.1, this.2.1]
  unfold parseIP
  rw [hs, List.find?_append, hf, Option.none_or, List.find?_cons_of_pos _ (by simp), h4]
  exact parseIPv4_dotted a b c d

theorem IP.not_sep_of_mem_string {ip : IP} (h : ip.to4.length = 4) {ch : Char}
    (hc : ch ∈ ip.string.toList) : ch ≠ ':' ∧ ch ≠ '[' ∧ ch ≠ ']' := by
  obtain ⟨a, b, c, d, h4⟩ := IP.to4_eq_cons h
  rw [IP.string_of_to4 h4] at hc
  simp only [List.mem_append, List.mem_cons] at hc
  rcases hc with hc | rfl | hc | rfl | hc | rfl | hc
  all_goals first
    | exact ⟨by decide, by decide, by decide⟩
    | have := not_sep_of_mem_toDigits hc; exact ⟨this.2.1, this.2.2.1, this.2.2.2.1⟩

theorem TCPAddr.string_of_zone_empty {a : TCPAddr} (hl : a.ip.length ≠ 0) (hz : a.zone = "")
    (hp : 0 ≤ a.port) : a.string = joinHostPort a.ip.string (uitoa a.port.toNat) := by
  unfold TCPAddr.string ipEmptyString itoa
  rw [if_neg hl, if_neg (by simp [hz]), if_neg (Int.not_lt.mpr hp)]

theorem TCPAddr.string_of_zone {a : TCPAddr} (hl : a.ip.length ≠ 0) (hz : a.zone ≠ "")
    (hp : 0 ≤ a.port) :
    a.string = joinHostPort (a.ip.string ++ "%" ++ a.zone) (uitoa a.port.toNat) := by
  unfold TCPAddr.string ipEmptyString itoa
  rw [if_neg hl, if_pos hz, if_neg (Int.not_lt.mpr hp)]

/-! ### The two models of `Atoi`

`parseInt` of `Frp.Go.Basic` is `Atoi` seen by code that checks the error; `atoi` is the value
and error Go returns, for code that drops the error. They agree. -/

theorem le_foldl_digits (ds : List Char) : ∀ n : Nat,
    n ≤ ds.foldl (fun n d => 10 * n + (d.toNat - '0'.toNat)) n := by
  induction ds with
  | nil => intro n; exact le_rfl
  | cons d ds ih => intro n; exact le_trans (show n ≤ 10 * n + (d.toNat - '0'.toNat) by omega) (ih _)

theorem parseUintLoop_eq_ok {un : Nat} : ∀ {ds : List Char} {n : Nat}, n ≤ 0xFFFFFFFFFFFFFFFF →
    (parseUintLoop n ds = .ok un ↔ ds.all Char.isDigit ∧
      ds.foldl (fun n d => 10 * n + (d.toNat - '0'.toNat)) n = un ∧ un ≤ 0xFFFFFFFFFFFFFFFF)
  | [], n, hn => by simp only [parseUintLoop, Except.ok.injEq, List.all_nil, List.foldl_nil, true_and]; constructor <;> intro h <;> omega
  | c :: ds, n, hn => by
    simp only [parseUintLoop, List.all_cons, Bool.and_eq_true, List.foldl_cons]
    split
    · next hc =>
      split
      · next hgt =>
        simp only [reduceCtorEq, false_iff]
        rintro ⟨-, rfl, hle⟩
        have := le_foldl_digits ds (10 * n + (c.toNat - '0'.toNat))
        omega
      · next hle => rw [parseUintLoop_eq_ok (by omega)]; simp [hc]
    · next hc => simp [hc]

theorem decimalValue_of_ne_nil {ds : List Char} (h : ds ≠ []) :
    decimalValue ds = if ds.all Char.isDigit then
      some (ds.foldl (fun n d => 10 * n + (d.toNat - '0'.toNat)) 0) else none := by
  cases ds with
  | nil => exact absurd rfl h
  | cons c ds => rfl

theorem parseInt_eq_atoi (s : String) :
    parseInt s = if (atoi s).2 = none then some (atoi s).1 else none := by
  show (let (neg, ds) := pickSign s.toList
    match decimalValue ds with
    | none => none
    | some n =>
      let v : Int := if neg then -n else n
      if -9223372036854775808 ≤ v ∧ v ≤ 9223372036854775807 then some v else none) = _
  unfold atoi
  obtain ⟨neg, ds⟩ := pickSign s.toList
  dsimp only
  by_cases hds : ds = []
  · subst hds; rfl
  rw [if_neg hds, decimalValue_of_ne_nil hds]
  cases hl : parseUintLoop 0 ds with
  | error e =>
    have hrhs : ∀ x : Int × Option NumError, x.2 ≠ none → (if x.2 = none then some x.1 else none) = none :=
      fun x hx => if_neg hx
    rw [hrhs _ (by cases e <;> simp)]
    by_cases ha : ds.all Char.isDigit = true
    · have hgt : ds.foldl (fun n d => 10 * n + (d.toNat - '0'.toNat)) 0 > 0xFFFFFFFFFFFFFFFF := by
        by_contra hle
        have := (parseUintLoop_eq_ok (Nat.zero_le _)).mpr ⟨ha, rfl, by omega⟩
        rw [hl] at this
        cases this
      rw [if_pos ha]
      dsimp only
      rw [if_neg]
      rintro ⟨h1, h2⟩
      cases neg <;> simp at h1 h2 hgt <;> omega
    · rw [if_neg ha]
  | ok un =>
    obtain ⟨ha, hf, hle⟩ := (parseUintLoop_eq_ok (Nat.zero_le _)).mp hl
    rw [if_pos ha, hf]
    dsimp only
    cases neg
    · by_cases h : 9223372036854775808 ≤ un
      · simp [h, show ¬ un ≤ 9223372036854775807 by omega]
      · simp [h, show un ≤ 9223372036854775807 by omega]; omega
    · by_cases h : 9223372036854775808 < un
      · simp [h, show ¬ un ≤ 9223372036854775808 by omega]
      · simp [h, show un ≤ 9223372036854775808 by omega]; omega

end Frp.Go
