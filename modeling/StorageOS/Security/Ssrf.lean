import StorageOS.Lib.Numerals
import StorageOS.Lib.Separators

/-! `isDisallowedIp`: whether the text of an address is one of a private, loopback, link-local or reserved
range. The texts of addresses are ASCII, and only their letters have two cases. -/

namespace StorageOS

open Numerals Separators

open scoped MemberByMember

/-! ### IPv4 -/

/-- `\d{1,3}` -/
def isOctetText (o : List Char) : Bool := 1 ≤ o.length && o.length ≤ 3 && o.all Char.isDigit

/-- The octets that `IPV4_REGEX` captures. -/
def ipv4Match (value : List Char) : Option (List (List Char)) :=
  let octets := value.splitOn '.'
  if octets.length = 4 ∧ octets.all isOctetText then some octets else none

def isValidOctet (n : ℕ) : Bool := n ≤ 255

def isIPv4Literal (value : List Char) : Bool :=
  (ipv4Match value).any fun octets => octets.all fun o => isValidOctet (read 10 o)

def ipv4ToInt (ip : List Char) : BitVec 32 :=
  let part i := BitVec.ofNat 32 (((ip.splitOn '.').map (read 10)).getD i 0)
  part 0 <<< 24 ||| part 1 <<< 16 ||| part 2 <<< 8 ||| part 3

/-- The first `bits` bits of a word. -/
def ipv4Mask (bits : ℕ) : BitVec 32 := if bits = 0 then 0 else 0xffffffff#32 <<< (32 - bits)

def inRange (intIp : BitVec 32) (cidrBase : List Char) (bits : ℕ) : Bool :=
  (intIp &&& ipv4Mask bits) == (ipv4ToInt cidrBase &&& ipv4Mask bits)

def DISALLOWED_IPV4_RANGES : List (String × ℕ) :=
  [("0.0.0.0", 8),
    ("10.0.0.0", 8),
    ("100.64.0.0", 10),
    ("127.0.0.0", 8),
    ("169.254.0.0", 16),
    ("172.16.0.0", 12),
    ("192.0.0.0", 24),
    ("192.0.2.0", 24),
    ("192.168.0.0", 16),
    ("198.18.0.0", 15),
    ("198.51.100.0", 24),
    ("203.0.113.0", 24),
    ("224.0.0.0", 4),
    ("240.0.0.0", 4),
    ("255.255.255.255", 32)]

def isDisallowedIpv4 (ip : List Char) : Bool :=
  DISALLOWED_IPV4_RANGES.any fun range => inRange (ipv4ToInt ip) range.1.toList range.2

/-! ### IPv6 -/

/-- `leftRaw ? leftRaw.split(':') : []` -/
def colonParts (raw : List Char) : List (List Char) := if raw = [] then [] else raw.splitOn ':'

/-- A last group `a.b.c.d` as two groups. -/
def expandIPv4Tail (parts : List (List Char)) : Option (List (List Char)) :=
  match parts.getLast? with
  | none => some parts
  | some last =>
    if ¬last.contains '.' then some parts
    else if ¬isIPv4Literal last then none
    else
      let int := ipv4ToInt last
      let high := Nat.toDigits 16 (int >>> 16).toNat
      let low := Nat.toDigits 16 (int &&& 0xffff#32).toNat
      some (parts.dropLast ++ [high, low])

/-- `HEXTET_REGEX` -/
def isHextet (g : List Char) : Bool := 1 ≤ g.length && g.length ≤ 4 && g.all isSmallHex

/-- `toLowerCase`, on the letters that have a meaning here. -/
def lowerCase (text : List Char) : List Char := text.map Char.toLower

def parseIPv6 (value : List Char) : Option (List ℕ) :=
  let v := lowerCase value
  let doubleColonCount := doubles ':' v
  if v = [] ∨ 1 < doubleColonCount ∨ [':', ':', ':'] <:+: v then none
  else
    let sides := if doubleColonCount = 1 then splitDoubles ':' v else [v]
    match expandIPv4Tail (colonParts (sides.getD 0 [])), expandIPv4Tail (colonParts (sides.getD 1 [])) with
    | some left, some right =>
      let totalGroups := left.length + right.length
      if ¬(left ++ right).all isHextet then none
      else if doubleColonCount = 0 ∧ totalGroups ≠ 8 then none
      else if doubleColonCount ≠ 0 ∧ 8 ≤ totalGroups then none
      else
        let zeros := List.replicate (if doubleColonCount = 1 then 8 - totalGroups else 0) ['0']
        let hextets := left ++ zeros ++ right
        if hextets.length ≠ 8 then none else some (hextets.map (read 16))
    | _, _ => none

def embeddedIpv4 (h6 h7 : ℕ) : List Char :=
  let ipv4Int := BitVec.ofNat 32 h6 <<< 16 ||| BitVec.ofNat 32 h7
  ['.'].intercalate ([24, 16, 8, 0].map fun shift =>
    Nat.toDigits 10 ((ipv4Int >>> (shift : ℕ)) &&& 0xff#32).toNat)

def isDisallowedIpv6 (ip : List Char) : Bool :=
  match parseIPv6 ip with
  | some [h0, h1, h2, h3, h4, h5, h6, h7] =>
    if h0 = 0 ∧ h1 = 0 ∧ h2 = 0 ∧ h3 = 0 ∧ h4 = 0 ∧ (h5 = 0 ∨ h5 = 0xffff) then
      isDisallowedIpv4 (embeddedIpv4 h6 h7)
    else if h0 &&& 0xfe00 = 0xfc00 then true
    else if h0 &&& 0xffc0 = 0xfe80 then true
    else false
  | _ => false

def looksLikeIPv6Literal (value : List Char) : Bool := value.contains ':'

/-- `ip.replace(/^\[|\]$/g, '')` -/
def withoutBrackets (ip : List Char) : List Char :=
  let bare := if ip.head? = some '[' then ip.tail else ip
  if bare.getLast? = some ']' then bare.dropLast else bare

def isDisallowedIp (ip : List Char) : Bool :=
  let bare := withoutBrackets ip
  if isIPv4Literal bare then isDisallowedIpv4 bare
  else if looksLikeIPv6Literal bare then isDisallowedIpv6 bare
  else false

/-! The IPv4 addresses that are not public, by their number, and the check of their texts. -/

open Masks

/-! ### Blocks of addresses -/

def ipv4 (a b c d : ℕ) : ℕ := ((a * 256 + b) * 256 + c) * 256 + d

/-- An address is in a block when it has the first bits of the block. -/
def InBlock (width : ℕ) (block : ℕ × ℕ) (address : ℕ) : Prop :=
  address / 2 ^ (width - block.2) = block.1 / 2 ^ (width - block.2)

/-- The blocks that are private, loopback, link-local or reserved, with the length of their first bits. -/
def reservedBlocks : List (ℕ × ℕ) :=
  [(ipv4 0 0 0 0, 8), (ipv4 10 0 0 0, 8), (ipv4 100 64 0 0, 10), (ipv4 127 0 0 0, 8),
    (ipv4 169 254 0 0, 16), (ipv4 172 16 0 0, 12), (ipv4 192 0 0 0, 24), (ipv4 192 0 2 0, 24),
    (ipv4 192 168 0 0, 16), (ipv4 198 18 0 0, 15), (ipv4 198 51 100 0, 24), (ipv4 203 0 113 0, 24),
    (ipv4 224 0 0 0, 4), (ipv4 240 0 0 0, 4), (ipv4 255 255 255 255, 32)]

def Ipv4Reserved (address : ℕ) : Prop := ∃ block ∈ reservedBlocks, InBlock 32 block address

theorem inRange_iff {intIp : BitVec 32} {base : List Char} {bits : ℕ} (some_ : 0 < bits) :
    inRange intIp base bits = true ↔ InBlock 32 ((ipv4ToInt base).toNat, bits) intIp.toNat := by
  have mask : ipv4Mask bits = BitVec.allOnes 32 <<< (32 - bits) := if_neg (by omega)
  rw [inRange, mask, beq_iff_eq, and_mask_eq_iff (by omega)]
  rfl

theorem reservedBlocks_eq :
    reservedBlocks = DISALLOWED_IPV4_RANGES.map fun range => ((ipv4ToInt range.1.toList).toNat, range.2) := by
  decide +kernel

theorem isDisallowedIpv4_iff {ip : List Char} :
    isDisallowedIpv4 ip = true ↔ Ipv4Reserved (ipv4ToInt ip).toNat := by
  have lengths : ∀ range ∈ DISALLOWED_IPV4_RANGES, 0 < range.2 := by decide
  rw [isDisallowedIpv4, List.any_eq_true, Ipv4Reserved, reservedBlocks_eq]
  constructor
  · rintro ⟨range, mem, inside⟩
    exact ⟨_, List.mem_map_of_mem mem, (inRange_iff (lengths range mem)).mp inside⟩
  · rintro ⟨block, mem, inside⟩
    obtain ⟨range, has, rfl⟩ := List.mem_map.mp mem
    exact ⟨range, has, (inRange_iff (lengths range has)).mpr inside⟩

/-! ### Dotted decimal -/

structure OctetText (o : List Char) (n : ℕ) : Prop where
  length : 1 ≤ o.length ∧ o.length ≤ 3
  digits : ∀ c ∈ o, c.isDigit = true
  value : read 10 o = n
  octet : n < 256

/-- An address as four octets with points between them. -/
inductive DottedDecimal : List Char → ℕ → Prop
  | octets {o p q r : List Char} {a b c d : ℕ} (first : OctetText o a) (second : OctetText p b)
    (third : OctetText q c) (fourth : OctetText r d) :
    DottedDecimal (['.'].intercalate [o, p, q, r]) (ipv4 a b c d)

theorem ipv4ToInt_octets {o p q r : List Char} (clean : ∀ text ∈ [o, p, q, r], '.' ∉ text)
    (small : ∀ text ∈ [o, p, q, r], read 10 text < 256) :
    ipv4ToInt (['.'].intercalate [o, p, q, r]) =
      BitVec.ofNat 32 (ipv4 (read 10 o) (read 10 p) (read 10 q) (read 10 r)) := by
  have split := List.splitOn_intercalate '.' clean (by simp)
  have first := small o (by simp)
  have second := small p (by simp)
  have third := small q (by simp)
  have fourth := small r (by simp)
  unfold ipv4ToInt
  rw [split]
  simp only [List.map_cons, List.map_nil, List.getD_cons_zero, List.getD_cons_succ]
  generalize read 10 o = a at *
  generalize read 10 p = b at *
  generalize read 10 q = c at *
  generalize read 10 r = d at *
  have shifts : BitVec.ofNat 32 c <<< 8 ||| BitVec.ofNat 32 d = BitVec.ofNat 32 (c * 2 ^ 8 + d) :=
    shiftLeft_or (by omega) (by omega)
  have shifts' : BitVec.ofNat 32 b <<< 16 ||| BitVec.ofNat 32 (c * 2 ^ 8 + d) =
      BitVec.ofNat 32 (b * 2 ^ 16 + (c * 2 ^ 8 + d)) := shiftLeft_or (by omega) (by omega)
  have whole : a * 2 ^ 24 + (b * 2 ^ 16 + (c * 2 ^ 8 + d)) = ipv4 a b c d := by
    unfold ipv4
    ring
  rw [BitVec.or_assoc, BitVec.or_assoc, shifts, shifts', shiftLeft_or (by omega) (by omega), whole]

theorem OctetText.clean {o : List Char} {n : ℕ} (text : OctetText o n) : '.' ∉ o := by
  intro mem
  exact absurd (text.digits _ mem) (by decide)

section

variable {text : List Char} {address : ℕ}

theorem DottedDecimal.ipv4ToInt (dotted : DottedDecimal text address) :
    (ipv4ToInt text).toNat = address ∧ address < 2 ^ 32 := by
  obtain @⟨o, p, q, r, a, b, c, d, first, second, third, fourth⟩ := dotted
  have short : ipv4 a b c d < 2 ^ 32 := by
    have := first.octet
    have := second.octet
    have := third.octet
    have := fourth.octet
    unfold ipv4
    omega
  refine ⟨?_, short⟩
  rw [ipv4ToInt_octets, first.value, second.value, third.value, fourth.value, BitVec.toNat_ofNat,
    Nat.mod_eq_of_lt short]
  · simp [first.clean, second.clean, third.clean, fourth.clean]
  · simp [first.value, second.value, third.value, fourth.value, first.octet, second.octet, third.octet,
      fourth.octet]

theorem OctetText.isOctetText {o : List Char} {n : ℕ} (text : OctetText o n) : isOctetText o = true := by
  simp only [StorageOS.isOctetText, Bool.and_eq_true, decide_eq_true_eq, List.all_eq_true]
  exact ⟨text.length, text.digits⟩

variable (dotted : DottedDecimal text address)
include dotted

theorem DottedDecimal.isIPv4Literal : isIPv4Literal text = true := by
  obtain @⟨o, p, q, r, a, b, c, d, first, second, third, fourth⟩ := dotted
  have split : (List.intercalate ['.'] [o, p, q, r]).splitOn '.' = [o, p, q, r] :=
    List.splitOn_intercalate '.' (by simp [first.clean, second.clean, third.clean, fourth.clean]) (by simp)
  have valid : ∀ {o : List Char} {n : ℕ}, OctetText o n → isValidOctet (read 10 o) = true := by
    intro o n text
    have := text.octet
    rw [text.value, isValidOctet, decide_eq_true_eq]
    omega
  have octets : ipv4Match (['.'].intercalate [o, p, q, r]) = some [o, p, q, r] := by
    rw [ipv4Match, split]
    simp [first.isOctetText, second.isOctetText, third.isOctetText, fourth.isOctetText]
  rw [StorageOS.isIPv4Literal, octets]
  simp [valid first, valid second, valid third, valid fourth]

theorem DottedDecimal.chars {c : Char} (mem : c ∈ text) : c = '.' ∨ c.isDigit = true := by
  obtain @⟨o, p, q, r, a, b, c', d, first, second, third, fourth⟩ := dotted
  rcases mem_intercalate mem with separator | ⟨part, has, inside⟩
  · exact .inl separator
  · simp only [List.mem_cons, List.not_mem_nil, or_false] at has
    rcases has with rfl | rfl | rfl | rfl
    · exact .inr (first.digits c inside)
    · exact .inr (second.digits c inside)
    · exact .inr (third.digits c inside)
    · exact .inr (fourth.digits c inside)

theorem DottedDecimal.mem_dot : '.' ∈ text := by
  obtain @⟨o, p, q, r, a, b, c, d, first, second, third, fourth⟩ := dotted
  rw [List.intercalate_cons_cons]
  simp

omit dotted

theorem colon_notMem_of_isIPv4Literal (literal : isIPv4Literal text = true) : ':' ∉ text := by
  intro mem
  obtain ⟨octets, found, -⟩ := (Option.any_eq_true _ _).mp literal
  simp only [ipv4Match] at found
  split_ifs at found with fits
  have joined : List.intercalate ['.'] (text.splitOn '.') = text := List.intercalate_splitOn '.'
  rw [← joined] at mem
  rcases mem_intercalate mem with separator | ⟨o, has, inside⟩
  · exact absurd separator (by decide)
  · have octet := List.all_eq_true.mp fits.2 o has
    simp only [isOctetText, Bool.and_eq_true, List.all_eq_true] at octet
    exact absurd (octet.2 _ inside) (by decide)

end

/-! ### The address of the last two groups -/

theorem ipv4ToInt_embeddedIpv4 {h6 h7 : ℕ} (high : h6 < 65536) (low : h7 < 65536) :
    (ipv4ToInt (embeddedIpv4 h6 h7)).toNat = h6 * 65536 + h7 := by
  have whole : BitVec.ofNat 32 h6 <<< 16 ||| BitVec.ofNat 32 h7 = BitVec.ofNat 32 (h6 * 65536 + h7) :=
    shiftLeft_or (by omega) (by omega)
  have octet : ∀ shift : ℕ, ((BitVec.ofNat 32 (h6 * 65536 + h7) >>> shift) &&& 0xff#32).toNat =
      (h6 * 65536 + h7) / 2 ^ shift % 256 := by
    intro shift
    rw [BitVec.toNat_and, BitVec.toNat_ushiftRight, BitVec.toNat_ofNat, Nat.mod_eq_of_lt (by omega),
      Nat.shiftRight_eq_div_pow]
    exact Nat.and_two_pow_sub_one_eq_mod _ 8
  have value : ∀ n, read 10 (Nat.toDigits 10 n) = n := fun n => (read_toDigits (by decide) (by decide)).1
  have clean : ∀ n, '.' ∉ Nat.toDigits 10 n := fun n mem =>
    absurd ((read_toDigits (by decide) (by decide)).2 '.' mem) (by decide)
  rw [embeddedIpv4, whole]
  simp only [List.map_cons, List.map_nil, octet]
  rw [ipv4ToInt_octets (by simp [clean]) (by simp [value, Nat.mod_lt]), value, value, value, value,
    BitVec.toNat_ofNat]
  unfold ipv4
  omega

end StorageOS
