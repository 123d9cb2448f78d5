import Mathlib.Data.List.Forall2
import StorageOS.Security.Ssrf

/-! The texts of an IPv6 address: groups in base 16, a run of zeros left out or not, and the last two groups
in decimal or not. The check of a text is that of the number it writes. -/

namespace StorageOS

open Numerals Separators Masks

open scoped MemberByMember

/-! ### The texts of an address -/

structure GroupText (g : List Char) (n : ℕ) : Prop where
  length : 1 ≤ g.length ∧ g.length ≤ 4
  digits : ∀ c ∈ g, isHex c = true
  value : read 16 g = n

/-- Groups, or groups and an IPv4 address in the place of the last two. -/
inductive GroupTexts : List (List Char) → List ℕ → Prop
  | groups {parts : List (List Char)} {ns : List ℕ} (all : List.Forall₂ GroupText parts ns) : GroupTexts parts ns
  | dotted {parts : List (List Char)} {ns : List ℕ} {text : List Char} {address : ℕ}
    (all : List.Forall₂ GroupText parts ns) (last : DottedDecimal text address) :
    GroupTexts (parts ++ [text]) (ns ++ [address / 65536, address % 65536])

/-- All eight groups, or those before and after one run of zeros. -/
inductive Ipv6Text : List Char → List ℕ → Prop
  | full {parts : List (List Char)} {ns : List ℕ} (texts : GroupTexts parts ns) (eight : ns.length = 8) :
    Ipv6Text ([':'].intercalate parts) ns
  | compressed {left right : List (List Char)} {start rest : List ℕ} {zeros : ℕ}
    (before : List.Forall₂ GroupText left start) (after : GroupTexts right rest) (some_ : 0 < zeros)
    (eight : start.length + zeros + rest.length = 8) :
    Ipv6Text ([':'].intercalate left ++ [':', ':'] ++ [':'].intercalate right)
      (start ++ List.replicate zeros 0 ++ rest)

def groupsNumber (groups : List ℕ) : ℕ := groups.foldl (fun n g => n * 65536 + g) 0

/-- An address that is reserved, or whose last groups are an IPv4 address that is. -/
def Ipv6Reserved (address : ℕ) : Prop :=
  (address / 2 ^ 32 = 0 ∨ address / 2 ^ 32 = 0xffff) ∧ Ipv4Reserved (address % 2 ^ 32) ∨
    InBlock 128 (0xfc00 * 2 ^ 112, 7) address ∨ InBlock 128 (0xfe80 * 2 ^ 112, 10) address

/-! ### Groups -/

structure Hextet (g : List Char) (n : ℕ) : Prop where
  hextet : isHextet g = true
  value : read 16 g = n

variable {g : List Char} {n : ℕ} {parts : List (List Char)} {ns : List ℕ}

theorem exists_of_forall₂ {P : List Char → ℕ → Prop} (all : List.Forall₂ P parts ns) (mem : g ∈ parts) :
    ∃ n, P g n := by
  induction all with
  | nil => cases mem
  | cons first rest ih =>
    rcases List.mem_cons.mp mem with rfl | mem
    · exact ⟨_, first⟩
    · exact ih mem

theorem GroupText.lower (text : GroupText g n) : Hextet (lowerCase g) n := by
  have values : ∀ {g : List Char}, (∀ c ∈ g, isHex c = true) → read 16 (lowerCase g) = read 16 g := by
    intro g digits
    rw [Numerals.read, lowerCase, List.foldl_map, Numerals.read]
    refine List.foldl_ext _ _ _ fun n c mem => ?_
    rw [(digit_toLower (digits c mem)).1]
  constructor
  · simp only [isHextet, lowerCase, List.length_map, Bool.and_eq_true, decide_eq_true_eq, List.all_eq_true]
    refine ⟨text.length, fun c mem => ?_⟩
    obtain ⟨d, has, rfl⟩ := List.mem_map.mp mem
    exact (digit_toLower (text.digits d has)).2
  · rw [values text.digits, text.value]

theorem Hextet.lt (hextet : Hextet g n) : n < 65536 := by
  obtain ⟨fits, rfl⟩ := hextet
  simp only [isHextet, Bool.and_eq_true, decide_eq_true_eq, List.all_eq_true] at fits
  calc
    read 16 g < 16 ^ g.length := read_lt fun c mem => digit_lt (fits.2 c mem)
    _ ≤ 16 ^ 4 := Nat.pow_le_pow_right (by decide) fits.1.2

theorem Hextet.clean (hextet : Hextet g n) {c : Char} (other : isSmallHex c = false) : g ≠ [] ∧ c ∉ g := by
  have fits := hextet.hextet
  simp only [isHextet, Bool.and_eq_true, decide_eq_true_eq, List.all_eq_true] at fits
  constructor
  · rintro rfl
    exact absurd fits.1.1 (by decide)
  · intro mem
    rw [fits.2 c mem] at other
    cases other

theorem hextet_toDigits (small : n < 65536) : Hextet (Nat.toDigits 16 n) n := by
  have written := read_toDigits (b := 16) (n := n) (by decide) (by decide)
  refine ⟨?_, written.1⟩
  simp only [isHextet, Bool.and_eq_true, decide_eq_true_eq, List.all_eq_true]
  exact ⟨⟨Nat.length_toDigits_pos, (Nat.length_toDigits_le_iff (by decide) (by decide)).mpr small⟩, written.2⟩

theorem DottedDecimal.lower {text : List Char} {address : ℕ} (dotted : DottedDecimal text address) :
    lowerCase text = text := by
  have same : ∀ c ∈ text, c.toLower = c := by
    intro c mem
    rcases dotted.chars mem with rfl | isDigit
    · decide
    · refine dif_neg fun capital => ?_
      rw [Char.isDigit, Bool.and_eq_true, decide_eq_true_eq, decide_eq_true_eq] at isDigit
      exact absurd (UInt32.le_trans capital.1 isDigit.2) (by decide)
  exact (List.map_congr_left same).trans (List.map_id text)

/-! ### The last groups -/

theorem expandIPv4Tail_hextets (all : List.Forall₂ Hextet parts ns) : expandIPv4Tail parts = some parts := by
  unfold expandIPv4Tail
  split
  · rfl
  · rename_i last found
    obtain ⟨n, hextet⟩ := exists_of_forall₂ all (List.mem_of_getLast? found)
    have plain := (hextet.clean (c := '.') (by decide)).2
    rw [if_pos (by simpa using plain)]

theorem expandIPv4Tail_dotted {text : List Char} {address : ℕ} (dotted : DottedDecimal text address) :
    expandIPv4Tail (parts ++ [text]) =
      some (parts ++ [Nat.toDigits 16 (address / 65536), Nat.toDigits 16 (address % 65536)]) := by
  have high : (ipv4ToInt text >>> 16).toNat = address / 65536 := by
    rw [BitVec.toNat_ushiftRight, dotted.ipv4ToInt.1, Nat.shiftRight_eq_div_pow]
  have low : (ipv4ToInt text &&& 0xffff#32).toNat = address % 65536 := by
    rw [BitVec.toNat_and, dotted.ipv4ToInt.1]
    exact Nat.and_two_pow_sub_one_eq_mod _ 16
  rw [expandIPv4Tail, List.getLast?_concat]
  simp only [List.contains_iff_mem, dotted.mem_dot, dotted.isIPv4Literal, not_true_eq_false, if_false, high, low,
    List.dropLast_concat]

theorem GroupTexts.lower (texts : GroupTexts parts ns) :
    ∃ expanded, expandIPv4Tail (parts.map lowerCase) = some expanded ∧ List.Forall₂ Hextet expanded ns := by
  cases texts with
  | groups all =>
    have hextets : List.Forall₂ Hextet (parts.map lowerCase) ns :=
      List.forall₂_map_left_iff.mpr (all.imp fun _ _ text => text.lower)
    exact ⟨_, expandIPv4Tail_hextets hextets, hextets⟩
  | @dotted parts ns text address all last =>
    have hextets : List.Forall₂ Hextet (parts.map lowerCase) ns :=
      List.forall₂_map_left_iff.mpr (all.imp fun _ _ text => text.lower)
    have short := last.ipv4ToInt.2
    rw [List.map_append, List.map_cons, List.map_nil, last.lower]
    refine ⟨_, expandIPv4Tail_dotted last, List.rel_append hextets (.cons ?_ (.cons ?_ .nil))⟩
    · exact hextet_toDigits (by omega)
    · exact hextet_toDigits (by omega)

theorem GroupTexts.plain (texts : GroupTexts parts ns) : Plain ':' (parts.map lowerCase) := by
  have clean : ∀ {parts : List (List Char)} {ns : List ℕ}, List.Forall₂ GroupText parts ns →
      Plain ':' (parts.map lowerCase) := by
    intro parts ns all p mem
    obtain ⟨g, has, rfl⟩ := List.mem_map.mp mem
    obtain ⟨n, text⟩ := exists_of_forall₂ all has
    exact text.lower.clean (by decide)
  cases texts with
  | groups all => exact clean all
  | dotted all last =>
    intro p mem
    rw [List.map_append, List.mem_append] at mem
    rcases mem with mem | mem
    · exact clean all p mem
    · rw [List.map_cons, List.map_nil, List.mem_singleton, last.lower] at mem
      subst mem
      refine ⟨List.ne_nil_of_mem last.mem_dot, fun inside => ?_⟩
      rcases last.chars inside with same | isDigit
      · exact absurd same (by decide)
      · exact absurd isDigit (by decide)

theorem colonParts_intercalate (plain : Plain ':' parts) : colonParts ([':'].intercalate parts) = parts := by
  cases parts with
  | nil => rfl
  | cons p parts =>
    obtain ⟨a, tail, starts, -⟩ := intercalate_starts plain
    rw [colonParts, if_neg (by rw [starts]; exact List.cons_ne_nil _ _),
      List.splitOn_intercalate ':' (fun p mem => (plain p mem).2) (List.cons_ne_nil _ _)]

/-! ### The groups of a text -/

theorem hextets_read (all : List.Forall₂ Hextet parts ns) :
    parts.length = ns.length ∧ parts.all isHextet = true ∧ parts.map (read 16) = ns ∧
      ∀ n ∈ ns, n < 65536 := by
  induction all with
  | nil => exact ⟨rfl, rfl, rfl, nofun⟩
  | cons first rest ih =>
    obtain ⟨length, hextets, values, small⟩ := ih
    refine ⟨by simp [length], by simp [first.hextet, hextets], by rw [List.map_cons, first.value, values], ?_⟩
    exact List.forall_mem_cons.mpr ⟨first.lt, small⟩

theorem lowerCase_intercalate (parts : List (List Char)) :
    lowerCase ([':'].intercalate parts) = [':'].intercalate (parts.map lowerCase) := map_intercalate _

theorem parseIPv6_full (texts : GroupTexts parts ns) (eight : ns.length = 8) :
    parseIPv6 ([':'].intercalate parts) = some ns := by
  obtain ⟨expanded, expands, all⟩ := texts.lower
  obtain ⟨length, hextets, values, -⟩ := hextets_read all
  have plain := texts.plain
  have none_ : doubles ':' ([':'].intercalate (parts.map lowerCase)) = 0 := by
    simpa [doubles] using doubles_intercalate plain []
  have triple : ¬[':', ':', ':'] <:+: [':'].intercalate (parts.map lowerCase) := by
    simpa using (triple_intercalate plain []).not
  have some_ : [':'].intercalate (parts.map lowerCase) ≠ [] := by
    intro empty
    have back := colonParts_intercalate plain
    rw [empty] at back
    rw [← back] at expands
    cases expands
    rw [← length] at eight
    cases eight
  unfold parseIPv6
  dsimp only
  rw [lowerCase_intercalate, none_, if_neg (by simp [some_, triple])]
  simp only [zero_ne_one, if_false, List.getD_cons_zero, List.getD_cons_succ, List.getD_nil,
    colonParts_intercalate plain, expands]
  simp [colonParts, expandIPv4Tail, hextets, length, eight, values]

theorem parseIPv6_compressed {left right : List (List Char)} {start rest : List ℕ} {zeros : ℕ}
    (before : List.Forall₂ GroupText left start) (after : GroupTexts right rest) (some_ : 0 < zeros)
    (eight : start.length + zeros + rest.length = 8) :
    parseIPv6 ([':'].intercalate left ++ [':', ':'] ++ [':'].intercalate right) =
      some (start ++ List.replicate zeros 0 ++ rest) := by
  have texts : GroupTexts left start := .groups before
  obtain ⟨leftGroups, expandsLeft, allLeft⟩ := texts.lower
  obtain ⟨rightGroups, expandsRight, allRight⟩ := after.lower
  obtain ⟨lengthLeft, hextetsLeft, valuesLeft, -⟩ := hextets_read allLeft
  obtain ⟨lengthRight, hextetsRight, valuesRight, -⟩ := hextets_read allRight
  have one := doubles_between texts.plain after.plain
  have lowered : lowerCase ([':'].intercalate left ++ [':', ':'] ++ [':'].intercalate right) =
      [':'].intercalate (left.map lowerCase) ++ [':', ':'] ++ [':'].intercalate (right.map lowerCase) := by
    rw [lowerCase, List.map_append, List.map_append, ← lowerCase, ← lowerCase, ← lowerCase,
      lowerCase_intercalate, lowerCase_intercalate]
    rfl
  have fill : 8 - (start.length + rest.length) = zeros := by omega
  unfold parseIPv6
  dsimp only
  have triple := not_triple_between texts.plain after.plain
  rw [lowered, one, if_neg (not_or.mpr ⟨by simp, not_or.mpr ⟨by decide, triple⟩⟩)]
  simp only [if_true, splitDoubles_between texts.plain after.plain, List.getD_cons_zero, List.getD_cons_succ,
    colonParts_intercalate texts.plain, colonParts_intercalate after.plain, expandsLeft, expandsRight]
  rw [if_neg (by simp [hextetsLeft, hextetsRight]), if_neg (by simp),
    if_neg (by omega)]
  rw [lengthLeft, lengthRight, fill, if_neg (by simp [lengthLeft, lengthRight]; omega)]
  simp [valuesLeft, valuesRight, Numerals.read, digit]

/-! ### The number of the groups -/

theorem isDisallowedIpv6_iff {ip : List Char} (parsed : parseIPv6 ip = some ns) (eight : ns.length = 8)
    (small : ∀ n ∈ ns, n < 65536) : isDisallowedIpv6 ip = true ↔ Ipv6Reserved (groupsNumber ns) := by
  obtain ⟨h0, h1, h2, h3, h4, h5, h6, h7, rfl⟩ : ∃ h0 h1 h2 h3 h4 h5 h6 h7, ns = [h0, h1, h2, h3, h4, h5, h6, h7] := by
    match ns, eight with
    | [h0, h1, h2, h3, h4, h5, h6, h7], _ => exact ⟨h0, h1, h2, h3, h4, h5, h6, h7, rfl⟩
  simp only [List.mem_cons, List.not_mem_nil, or_false, forall_eq_or_imp, forall_eq] at small
  obtain ⟨s0, s1, s2, s3, s4, s5, s6, s7⟩ := small
  have number : groupsNumber [h0, h1, h2, h3, h4, h5, h6, h7] =
      ((((((h0 * 65536 + h1) * 65536 + h2) * 65536 + h3) * 65536 + h4) * 65536 + h5) * 65536 + h6) * 65536 + h7 := by
    simp [groupsNumber]
  generalize groupsNumber [h0, h1, h2, h3, h4, h5, h6, h7] = a at number
  have last : a % 2 ^ 32 = h6 * 65536 + h7 := by omega
  have embedded : (a / 2 ^ 32 = 0 ∨ a / 2 ^ 32 = 0xffff) ↔
      h0 = 0 ∧ h1 = 0 ∧ h2 = 0 ∧ h3 = 0 ∧ h4 = 0 ∧ (h5 = 0 ∨ h5 = 0xffff) := by omega
  have unique : h0 &&& 0xfe00 = 0xfc00 ↔ InBlock 128 (0xfc00 * 2 ^ 112, 7) a := by
    have mask := and_mask (k := 9) (show h0 < 2 ^ 16 from s0) (by decide)
    have first : a / 2 ^ 121 = h0 / 512 := by omega
    rw [InBlock]
    norm_num at mask first ⊢
    rw [mask, first]
    omega
  have link : h0 &&& 0xffc0 = 0xfe80 ↔ InBlock 128 (0xfe80 * 2 ^ 112, 10) a := by
    have mask := and_mask (k := 6) (show h0 < 2 ^ 16 from s0) (by decide)
    have first : a / 2 ^ 118 = h0 / 64 := by omega
    rw [InBlock]
    norm_num at mask first ⊢
    rw [mask, first]
    omega
  have lasts : isDisallowedIpv4 (embeddedIpv4 h6 h7) = true ↔ Ipv4Reserved (a % 2 ^ 32) := by
    rw [isDisallowedIpv4_iff, ipv4ToInt_embeddedIpv4 s6 s7, last]
  rw [isDisallowedIpv6, parsed, Ipv6Reserved, embedded, ← lasts, ← unique, ← link]
  dsimp only
  split_ifs with inside first second
  · simp [inside]
  · simp [first]
  · simp [second]
  · simp [inside, first, second]

/-! ### The check of a text -/

theorem withoutBrackets_bracketed (bare : List Char) : withoutBrackets ('[' :: bare ++ [']']) = bare := by
  simp [withoutBrackets]

theorem withoutBrackets_plain {bare : List Char} (plain : ∀ c ∈ bare, c ≠ '[' ∧ c ≠ ']') :
    withoutBrackets bare = bare := by
  have first : bare.head? ≠ some '[' := fun found => (plain _ (List.mem_of_head? found)).1 rfl
  have last : bare.getLast? ≠ some ']' := fun found => (plain _ (List.mem_of_getLast? found)).2 rfl
  rw [withoutBrackets, if_neg first, if_neg last]

theorem GroupTexts.chars {c : Char} (texts : GroupTexts parts ns) (mem : g ∈ parts) (inside : c ∈ g) :
    c = '.' ∨ isHex c = true := by
  cases texts with
  | groups all =>
    obtain ⟨n, text⟩ := exists_of_forall₂ all mem
    exact .inr (text.digits c inside)
  | dotted all last =>
    rcases List.mem_append.mp mem with mem | mem
    · obtain ⟨n, text⟩ := exists_of_forall₂ all mem
      exact .inr (text.digits c inside)
    · rw [List.mem_singleton.mp mem] at inside
      rcases last.chars inside with point | isDigit
      · exact .inl point
      · exact .inr (by simp [isHex, isSmallHex, isDigit])

section

variable {text : List Char}

theorem Ipv6Text.chars {c : Char} (written : Ipv6Text text ns) (mem : c ∈ text) :
    c = ':' ∨ c = '.' ∨ isHex c = true := by
  have joined : ∀ {parts : List (List Char)} {ns : List ℕ}, GroupTexts parts ns →
      c ∈ [':'].intercalate parts → c = ':' ∨ c = '.' ∨ isHex c = true := by
    intro parts ns texts mem
    rcases mem_intercalate mem with separator | ⟨p, has, inside⟩
    · exact .inl separator
    · exact .inr (texts.chars has inside)
  cases written with
  | full texts eight => exact joined texts mem
  | compressed before after some_ eight =>
    rw [List.mem_append, List.mem_append] at mem
    rcases mem with (mem | mem) | mem
    · exact joined (.groups before) mem
    · exact .inl (by simpa using mem)
    · exact joined after mem

theorem Ipv6Text.parse (written : Ipv6Text text ns) : parseIPv6 text = some ns ∧ ns.length = 8 := by
  cases written with
  | full texts eight => exact ⟨parseIPv6_full texts eight, eight⟩
  | compressed before after some_ eight =>
    refine ⟨parseIPv6_compressed before after some_ eight, ?_⟩
    rw [List.length_append, List.length_append, List.length_replicate, eight]

theorem GroupTexts.lt (texts : GroupTexts parts ns) : ∀ n ∈ ns, n < 65536 := by
  obtain ⟨expanded, -, all⟩ := texts.lower
  exact (hextets_read all).2.2.2

theorem Ipv6Text.lt (written : Ipv6Text text ns) : ∀ n ∈ ns, n < 65536 := by
  cases written with
  | full texts eight => exact texts.lt
  | @compressed left right start rest zeros before after some_ eight =>
    have texts : GroupTexts left start := .groups before
    intro n mem
    rw [List.mem_append, List.mem_append, List.mem_replicate] at mem
    rcases mem with (mem | ⟨-, rfl⟩) | mem
    · exact texts.lt n mem
    · decide
    · exact after.lt n mem

theorem GroupTexts.length_le (texts : GroupTexts parts ns) : ns.length ≤ parts.length + 1 := by
  cases texts with
  | groups all =>
    rw [all.length_eq]
    omega
  | dotted all last =>
    rw [List.length_append, List.length_append, all.length_eq]
    exact le_rfl

theorem Ipv6Text.colon (written : Ipv6Text text ns) : ':' ∈ text := by
  cases written with
  | @full parts _ texts eight =>
    have many := texts.length_le
    match parts, many with
    | p :: q :: parts, _ =>
      rw [List.intercalate_cons_cons]
      simp
    | [p], few => simp [eight] at few
    | [], few => simp [eight] at few
  | compressed before after some_ eight => simp

end

/-- The answer is that of the address, for every text of it. -/
theorem disallowed_by_address :
    (∀ (address : BitVec 32) (text : List Char), DottedDecimal text address.toNat →
      (isDisallowedIp text = true ↔ Ipv4Reserved address.toNat)) ∧
    ∀ (address : BitVec 128) (groups : List ℕ) (bare text : List Char), Ipv6Text bare groups →
      groupsNumber groups = address.toNat → text = bare ∨ text = '[' :: bare ++ [']'] →
      (isDisallowedIp text = true ↔ Ipv6Reserved address.toNat) := by
  constructor
  · intro address text dotted
    have bare : withoutBrackets text = text := by
      refine withoutBrackets_plain fun c mem => ?_
      rcases dotted.chars mem with rfl | isDigit
      · decide
      · constructor <;> rintro rfl <;> exact absurd isDigit (by decide)
    rw [isDisallowedIp, bare, if_pos dotted.isIPv4Literal, isDisallowedIpv4_iff, dotted.ipv4ToInt.1]
  · intro address groups bare text written number spelled
    have stripped : withoutBrackets text = bare := by
      rcases spelled with rfl | rfl
      · refine withoutBrackets_plain fun c mem => ?_
        rcases written.chars mem with rfl | rfl | hex
        · decide
        · decide
        · constructor <;> rintro rfl <;> exact absurd hex (by decide)
      · exact withoutBrackets_bracketed bare
    obtain ⟨parsed, eight⟩ := written.parse
    have colon := written.colon
    have other : isIPv4Literal bare ≠ true := fun literal => colon_notMem_of_isIPv4Literal literal colon
    have looks : looksLikeIPv6Literal bare = true := List.contains_iff_mem.mpr colon
    rw [isDisallowedIp, stripped, if_neg other, if_pos looks, ← number]
    exact isDisallowedIpv6_iff parsed eight written.lt

/-- The loopback address, mapped and in brackets, and an address of a private network. -/
theorem disallowed_by_address_private :
    isDisallowedIp "10.1.2.3".toList = true ∧ isDisallowedIp "[::FFFF:7f00:1]".toList = true := by
  have network : DottedDecimal "10.1.2.3".toList (0x0a010203 : BitVec 32).toNat :=
    .octets (o := ['1', '0']) (p := ['1']) (q := ['2']) (r := ['3']) (a := 10) (b := 1) (c := 2) (d := 3)
      ⟨by decide, by decide, by decide, by decide⟩ ⟨by decide, by decide, by decide, by decide⟩
      ⟨by decide, by decide, by decide, by decide⟩ ⟨by decide, by decide, by decide, by decide⟩
  have mapped : Ipv6Text "::FFFF:7f00:1".toList ([] ++ List.replicate 5 0 ++ [0xffff, 0x7f00, 1]) :=
    .compressed .nil (.groups (.cons (a := ['F', 'F', 'F', 'F']) ⟨by decide, by decide, by decide⟩
      (.cons (a := ['7', 'f', '0', '0']) ⟨by decide, by decide, by decide⟩
        (.cons (a := ['1']) ⟨by decide, by decide, by decide⟩ .nil)))) (by decide +kernel) (by decide +kernel)
  constructor
  · refine (disallowed_by_address.1 _ _ network).mpr ⟨(ipv4 10 0 0 0, 8), by decide, ?_⟩
    unfold InBlock
    decide
  · refine (disallowed_by_address.2 0xffff7f000001 _ _ _ mapped (by decide) (.inr (by decide))).mpr (.inl ⟨?_, ?_⟩)
    · decide
    · refine ⟨(ipv4 127 0 0 0, 8), by decide, ?_⟩
      unfold InBlock
      decide

end StorageOS
