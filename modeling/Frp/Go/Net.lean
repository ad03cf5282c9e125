import Mathlib.Data.List.Basic

/-! The part of Go's `net` package the client's PROXY-protocol header uses: `net.IP`, `ParseIP`,
`To4` and `To16`. -/
namespace Frp.Go

/-- A `net.IP`: its bytes, `nil` being the empty slice. -/
abbrev IP := List UInt8

def big : Nat := 0xFFFFFF

/-- The loop `dtoi` and `xtoi` share, in base `base` with the digits `digit` reads: the value
of the digits at the head of `s` and how many there are, `none` when there is no digit or the
value reaches `big` (Go's `ok == false`). `n` and `i` are the value and count so far. -/
def digitsLoop (base : Nat) (digit : Char → Option Nat) (n i : Nat) :
    List Char → Option (Nat × Nat)
  | c :: s =>
    match digit c with
    | some d =>
      if n * base + d ≥ big then none else digitsLoop base digit (n * base + d) (i + 1) s
    | none => if i = 0 then none else some (n, i)
  | [] => if i = 0 then none else some (n, i)

def decimalDigit (c : Char) : Option Nat :=
  if '0' ≤ c ∧ c ≤ '9' then some (c.toNat - '0'.toNat) else none

def hexDigit (c : Char) : Option Nat :=
  if '0' ≤ c ∧ c ≤ '9' then some (c.toNat - '0'.toNat)
  else if 'a' ≤ c ∧ c ≤ 'f' then some (c.toNat - 'a'.toNat + 10)
  else if 'A' ≤ c ∧ c ≤ 'F' then some (c.toNat - 'A'.toNat + 10)
  else none

def dtoi (s : List Char) : Option (Nat × Nat) := digitsLoop 10 decimalDigit 0 0 s

def xtoi (s : List Char) : Option (Nat × Nat) := digitsLoop 16 hexDigit 0 0 s

def v4InV6Prefix : IP := [0, 0, 0, 0, 0, 0, 0, 0, 0, 0, 0xff, 0xff]

/-- The loop of `parseIPv4` from octet `i` on, `k` octets to go: the octets read and what is
left of `s`. -/
def parseIPv4Octets : (k i : Nat) → List Char → Option (IP × List Char)
  | 0, _, s => some ([], s)
  | k + 1, i, s =>
    if s = [] then none
    else
      let dot := if i > 0 then (match s with | '.' :: s => some s | _ => none) else some s
      match dot with
      | none => none
      | some s =>
        match dtoi s with
        | none => none
        | some (n, c) =>
          if n > 0xFF then none
          else (parseIPv4Octets k (i + 1) (s.drop c)).map fun (p, s) => (n.toUInt8 :: p, s)

/-- `parseIPv4`: four dotted decimal octets and nothing after them, returned as
`IPv4(p[0], p[1], p[2], p[3])`, the 16-byte form. -/
def parseIPv4 (s : List Char) : IP :=
  match parseIPv4Octets 4 0 s with
  | some (p, []) => v4InV6Prefix ++ p
  | _ => []

/-- What one pass of the loop of `parseIPv6` ends with: the literal is rejected (`return nil`),
the loop stops (`break`), or it goes on; with the bytes saved so far, the position of `::` and
what is left of the string. -/
inductive IPv6Pass where
  | reject
  | stop (ip : IP) (ellipsis : Option Nat) (s : List Char)
  | next (ip : IP) (ellipsis : Option Nat) (s : List Char)

/-- One pass of the loop of `parseIPv6`, with `ip` the bytes saved so far (Go's `i` is its
length) and `ellipsis` the position of `::`: a hexadecimal group, or an IPv4 address that ends
the literal, then a `:` or `::`. -/
def parseIPv6Pass (ip : IP) (ellipsis : Option Nat) (s : List Char) : IPv6Pass :=
  match xtoi s with
  | none => .reject
  | some (n, c) =>
    if n > 0xFFFF then .reject
    else if (s.drop c).head? = some '.' then
      -- a trailing IPv4 address
      if ellipsis = none ∧ ip.length ≠ 12 then .reject
      else if ip.length + 4 > 16 then .reject
      else
        match parseIPv4 s with
        | [] => .reject
        | ip4 => .stop (ip ++ ip4.drop 12) ellipsis []
    else
      let ip := ip ++ [(n / 256).toUInt8, n.toUInt8]
      match s.drop c with
      | [] => .stop ip ellipsis []
      | [':'] => .reject
      | ':' :: ':' :: s =>
        if ellipsis.isSome then .reject
        else if s = [] then .stop ip (some ip.length) []
        else .next ip (some ip.length) s
      | ':' :: s => .next ip ellipsis s
      | _ => .reject

/-- The loop of `parseIPv6`, `fuel` passes at most (each saves two bytes, and the loop stops at
16): `none` for a rejected literal, otherwise the bytes, the ellipsis and what is left of the
string when the loop stops. -/
def parseIPv6Loop : Nat → IP → Option Nat → List Char → Option (IP × Option Nat × List Char)
  | 0, ip, ellipsis, s => some (ip, ellipsis, s)
  | fuel + 1, ip, ellipsis, s =>
    if ip.length < 16 then
      match parseIPv6Pass ip ellipsis s with
      | .reject => none
      | .stop ip ellipsis s => some (ip, ellipsis, s)
      | .next ip ellipsis s => parseIPv6Loop fuel ip ellipsis s
    else some (ip, ellipsis, s)

/-- `parseIPv6` without a zone: hexadecimal groups separated by `:`, at most one `::` standing
for one or more zero groups, and optionally an IPv4 address in the last four bytes. -/
def parseIPv6 (s : List Char) : IP :=
  let (ellipsis, s) : Option Nat × List Char := match s with
    | ':' :: ':' :: s => (some 0, s)
    | s => (none, s)
  if ellipsis = some 0 ∧ s = [] then List.replicate 16 0
  else
    match parseIPv6Loop 8 [] ellipsis s with
    | none => []
    | some (ip, ellipsis, s) =>
      if s ≠ [] then []
      else if ip.length < 16 then
        match ellipsis with
        | none => []
        | some e => ip.take e ++ List.replicate (16 - ip.length) 0 ++ ip.drop e
      else if ellipsis.isSome then []
      else ip

/-- `net.ParseIP`: the first `.` or `:` of `s` decides the family; `nil` if there is none. -/
def parseIP (s : String) : IP :=
  match s.toList.find? (fun c => c = '.' ∨ c = ':') with
  | some '.' => parseIPv4 s.toList
  | some ':' => parseIPv6 s.toList
  | _ => []

def IP.to4 (ip : IP) : IP :=
  if ip.length = 4 then ip
  else if ip.length = 16 ∧ ip.take 12 = v4InV6Prefix then ip.drop 12
  else []

def IP.to16 (ip : IP) : IP :=
  if ip.length = 4 then v4InV6Prefix ++ ip
  else if ip.length = 16 then ip
  else []

/-! Every IP `ParseIP` returns is `nil` or 16 bytes long. -/

theorem parseIPv4Octets_length : ∀ {k i : Nat} {s : List Char} {p : IP} {t : List Char},
    parseIPv4Octets k i s = some (p, t) → p.length = k
  | 0, _, _, _, _, h => by simp [parseIPv4Octets] at h; simp [← h.1]
  | k + 1, i, s, p, t, h => by
    simp only [parseIPv4Octets] at h
    rw [if_neg (by rintro rfl; simp at h)] at h
    generalize (if i > 0 then _ else some s) = dot at h
    rcases dot with _ | s'
    · cases h
    rcases hd : dtoi s' with _ | ⟨n, c⟩ <;> simp only [hd] at h
    · cases h
    split_ifs at h
    obtain ⟨⟨p', t'⟩, h', he⟩ := Option.map_eq_some'.mp h
    cases he
    simp [parseIPv4Octets_length h']

theorem parseIPv4_length (s : List Char) : parseIPv4 s = [] ∨ (parseIPv4 s).length = 16 := by
  unfold parseIPv4
  split
  · next h => simp [v4InV6Prefix, parseIPv4Octets_length h]
  · simp

theorem parseIPv6Pass_next_length {ip ip' : IP} {e e' : Option Nat} {s t : List Char}
    (h : parseIPv6Pass ip e s = .next ip' e' t) : ip'.length = ip.length + 2 := by
  unfold parseIPv6Pass at h
  split at h
  · cases h
  split at h
  · cases h
  split at h
  · split_ifs at h
    split at h <;> cases h
  · split at h <;> (try split_ifs at h) <;> cases h <;> simp

theorem parseIPv6Pass_stop_length {ip ip' : IP} {e e' : Option Nat} {s t : List Char}
    (h : parseIPv6Pass ip e s = .stop ip' e' t) : ip'.length = ip.length + 2 ∨ ip'.length ≤ 16 := by
  unfold parseIPv6Pass at h
  split at h
  · cases h
  split at h
  · cases h
  split at h
  · split_ifs at h
    split at h
    · cases h
    · next ip4 hne =>
      cases h
      have := (parseIPv4_length s).resolve_left hne
      simp only [List.length_append, List.length_drop, this]
      omega
  · split at h <;> (try split_ifs at h) <;> cases h <;> simp

theorem parseIPv6Loop_length : ∀ {fuel : Nat} {ip : IP} {e : Option Nat} {s : List Char}
    {ip' : IP} {e' : Option Nat} {t : List Char},
    parseIPv6Loop fuel ip e s = some (ip', e', t) → ip.length + 2 * fuel ≤ 16 → ip'.length ≤ 16
  | 0, ip, e, s, _, _, _, h, hb => by simp [parseIPv6Loop] at h; rw [← h.1]; omega
  | fuel + 1, ip, e, s, ip', e', t, h, hb => by
    simp only [parseIPv6Loop] at h
    split_ifs at h
    · split at h
      · cases h
      · next h' =>
        cases h
        have := parseIPv6Pass_stop_length h'
        omega
      · next h' =>
        have := parseIPv6Pass_next_length h'
        exact parseIPv6Loop_length h (by omega)
    · cases h; omega

theorem parseIPv6_length (s : List Char) : parseIPv6 s = [] ∨ (parseIPv6 s).length = 16 := by
  unfold parseIPv6
  generalize (match s with | ':' :: ':' :: s => (some 0, s) | s => (none, s)) = p
  obtain ⟨e, s⟩ := p
  dsimp only
  split_ifs
  · simp
  split
  · simp
  · next ip e' t hl =>
    have := parseIPv6Loop_length hl (by simp)
    split_ifs
    · simp
    · split
      · simp
      · -- the ellipsis stands for the missing zero groups
        right
        simp only [List.length_append, List.length_take, List.length_replicate, List.length_drop]
        omega
    · simp
    · right; omega

theorem parseIP_length (s : String) : parseIP s = [] ∨ (parseIP s).length = 16 := by
  unfold parseIP
  split
  · exact parseIPv4_length _
  · exact parseIPv6_length _
  · simp

theorem IP.to16_parseIP {s : String} (h : parseIP s ≠ []) : (parseIP s).to16 = parseIP s := by
  simp [IP.to16, (parseIP_length s).resolve_left h]

example : parseIP "192.168.0.1" = v4InV6Prefix ++ [192, 168, 0, 1] := by decide
example : parseIP "::1" = List.replicate 15 0 ++ [1] := by decide
example : parseIP "1:2:3:4:5:6:1.2.3.4" = [0, 1, 0, 2, 0, 3, 0, 4, 0, 5, 0, 6, 1, 2, 3, 4] := by
  decide
example : parseIP "1.2.3" = [] ∧ parseIP "1::2::3" = [] ∧ parseIP "localhost" = [] := by decide

end Frp.Go
