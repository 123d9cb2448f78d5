import StorageOS.Lib.Separators

/-! XML texts: content as a tree, how the tree is written, and the part of the grammar of XML 1.0 that
has elements, attributes, characters and the five predefined references. -/

namespace Xml

open scoped MemberByMember

/-! ### Content -/

abbrev Attributes := List (String × String)

/-- Characters and elements in document order. -/
inductive Content
  | nil
  | char (c : Char) (rest : Content)
  | void (name : String) (attributes : Attributes) (rest : Content)
  | element (name : String) (attributes : Attributes) (inner rest : Content)

namespace Content

def append : Content → Content → Content
  | nil, y => y
  | char c rest, y => char c (rest.append y)
  | void name attributes rest, y => void name attributes (rest.append y)
  | element name attributes inner rest, y => element name attributes inner (rest.append y)

instance : Append Content := ⟨append⟩

def ofText (text : List Char) : Content := text.foldr char nil

def elWith (name : String) (attributes : Attributes) (inner : Content) : Content :=
  element name attributes inner nil

def el (name : String) (inner : Content) : Content := elWith name [] inner

def leaf (name : String) (s : String) : Content := el name (ofText s.toList)

def selfClosed (name : String) : Content := void name [] nil

def concat (parts : List Content) : Content := parts.foldr append nil

def line (indent : ℕ) : Content := ofText ('\n' :: List.replicate indent ' ')

def text : Content → List Char
  | nil => []
  | char c rest => c :: rest.text
  | void _ _ rest => rest.text
  | element _ _ inner rest => inner.text ++ rest.text

def child (wanted : String) : Content → List Content
  | nil => []
  | char _ rest => rest.child wanted
  | void _ _ rest => rest.child wanted
  | element name _ inner rest => if name = wanted then inner :: rest.child wanted else rest.child wanted

def path : Content → List String → List Content
  | x, [] => [x]
  | x, name :: names => (x.child name).flatMap fun y => y.path names

def texts (x : Content) (names : List String) : List (List Char) := (x.path names).map text

end Content

/-! ### Characters and names -/

/-- The characters of XML 1.0; a `Char` is no surrogate. -/
def isXmlChar (c : Char) : Bool :=
  c.toNat = 9 || c.toNat = 10 || c.toNat = 13 || (32 ≤ c.toNat && c.toNat ≠ 0xFFFE && c.toNat ≠ 0xFFFF)

def XmlText (s : String) : Prop := ∀ c ∈ s.toList, isXmlChar c = true

instance (s : String) : Decidable (XmlText s) := inferInstanceAs (Decidable (∀ c ∈ s.toList, isXmlChar c = true))

def isNameChar (c : Char) : Bool := c.isAlphanum || c = ':' || c = '_' || c = '-' || c = '.'

def isName (name : String) : Bool := name.toList.head?.any Char.isAlpha && name.toList.all isNameChar

def isQuotable (c : Char) : Bool := isXmlChar c && c ≠ '<' && c ≠ '&' && c.toNat ≠ 34

/-- Attributes with different names, whose values need no reference. -/
def areAttributes (attributes : Attributes) : Bool :=
  (attributes.all fun a => isName a.1 && a.2.toList.all isQuotable) &&
    decide (attributes.map Prod.fst).Nodup

/-- The characters that have a reference of their own, with its name. -/
def entities : List (Char × String) :=
  [('&', "amp"), ('<', "lt"), ('>', "gt"), (Char.ofNat 34, "quot"), (Char.ofNat 39, "apos")]

def reference (name : String) : List Char := '&' :: (name.toList ++ [';'])

def escapeChar (c : Char) : List Char :=
  match entities.lookup c with
  | some name => reference name
  | none => [c]

/-! ### Writing -/

def writeAttribute (a : String × String) : List Char :=
  ' ' :: (a.1.toList ++ '=' :: Char.ofNat 34 :: (a.2.toList ++ [Char.ofNat 34]))

def writeTag (name : String) (attributes : Attributes) : List Char :=
  name.toList ++ attributes.flatMap writeAttribute

def render : Content → List Char
  | .nil => []
  | .char c rest => escapeChar c ++ render rest
  | .void name attributes rest => '<' :: (writeTag name attributes ++ '/' :: '>' :: render rest)
  | .element name attributes inner rest =>
    '<' :: (writeTag name attributes ++ '>' ::
      (render inner ++ '<' :: '/' :: (name.toList ++ '>' :: render rest)))

/-! ### Reading -/

/-- The text reads as the content. -/
inductive Reads : List Char → Content → Prop
  | nil : Reads [] .nil
  | char {c s x} : isXmlChar c = true → c ≠ '<' → c ≠ '&' → ¬[']', ']', '>'] <+: c :: s → Reads s x →
      Reads (c :: s) (.char c x)
  | reference {c name s x} : (c, name) ∈ entities → Reads s x → Reads (reference name ++ s) (.char c x)
  | void {name attributes s x} : isName name = true → areAttributes attributes = true → Reads s x →
      Reads ('<' :: (writeTag name attributes ++ '/' :: '>' :: s)) (.void name attributes x)
  | element {name attributes t y s x} : isName name = true → areAttributes attributes = true → Reads t y →
      Reads s x → Reads ('<' :: (writeTag name attributes ++ '>' ::
        (t ++ '<' :: '/' :: (name.toList ++ '>' :: s)))) (.element name attributes y x)

def declaration : List Char := "<?xml version=\"1.0\" encoding=\"UTF-8\"?>\n".toList

def Content.IsRoot (x : Content) : Prop := ∃ name attributes inner, x = .element name attributes inner .nil

/-- The text is a well-formed document, whose root element is the content. -/
def Document (s : List Char) (x : Content) : Prop := x.IsRoot ∧ ∃ t, s = declaration ++ t ∧ Reads t x

/-! ### The parts of content -/

namespace Content

variable (x y : Content)

def Named : Content → Prop
  | nil => True
  | char _ rest => rest.Named
  | void name attributes rest => isName name = true ∧ areAttributes attributes = true ∧ rest.Named
  | element name attributes inner rest =>
    isName name = true ∧ areAttributes attributes = true ∧ inner.Named ∧ rest.Named

def Clean : Prop := ∀ c ∈ x.text, isXmlChar c = true

@[simp] theorem nil_append : nil ++ y = y := rfl

@[simp] theorem char_append (c : Char) : char c x ++ y = char c (x ++ y) := rfl

@[simp] theorem void_append (name : String) (attributes : Attributes) :
    void name attributes x ++ y = void name attributes (x ++ y) := rfl

@[simp] theorem element_append (name : String) (attributes : Attributes) (inner : Content) :
    element name attributes inner x ++ y = element name attributes inner (x ++ y) := rfl

@[simp] theorem text_append : (x ++ y).text = x.text ++ y.text := by
  induction x with
  | nil => rfl
  | char c rest ih => simp [text, ih]
  | void name attributes rest ih => simp [text, ih]
  | element name attributes inner rest _ ih => simp [text, ih]

@[simp] theorem text_ofText (s : List Char) : (ofText s).text = s := by
  induction s with
  | nil => rfl
  | cons c s ih => rw [ofText, List.foldr_cons, ← ofText, text, ih]

@[simp] theorem text_elWith (name : String) (attributes : Attributes) :
    (elWith name attributes x).text = x.text := List.append_nil _

@[simp] theorem text_el (name : String) : (el name x).text = x.text := List.append_nil _

@[simp] theorem text_leaf (name s : String) : (leaf name s).text = s.toList := by
  rw [leaf, text_el, text_ofText]

@[simp] theorem text_selfClosed (name : String) : (selfClosed name).text = [] := rfl

@[simp] theorem text_concat (parts : List Content) : (concat parts).text = parts.flatMap text := by
  induction parts with
  | nil => rfl
  | cons x parts ih =>
    rw [List.flatMap_cons, ← ih]
    exact text_append x _

@[simp] theorem child_append (name : String) : (x ++ y).child name = x.child name ++ y.child name := by
  induction x with
  | nil => rfl
  | char c rest ih => exact ih
  | void _ _ rest ih => exact ih
  | element other _ inner rest _ ih =>
    rw [element_append, child, child]
    split
    · rw [ih, List.cons_append]
    · exact ih

@[simp] theorem child_ofText (name : String) (s : List Char) : (ofText s).child name = [] := by
  induction s with
  | nil => rfl
  | cons c s ih => exact ih

@[simp] theorem child_line (name : String) (indent : ℕ) : (line indent).child name = [] := child_ofText name _

@[simp] theorem child_elWith (wanted name : String) (attributes : Attributes) :
    (elWith name attributes x).child wanted = if name = wanted then [x] else [] := rfl

@[simp] theorem child_el (wanted name : String) :
    (el name x).child wanted = if name = wanted then [x] else [] := rfl

@[simp] theorem child_leaf (wanted name s : String) :
    (leaf name s).child wanted = if name = wanted then [ofText s.toList] else [] := rfl

@[simp] theorem child_selfClosed (wanted name : String) : (selfClosed name).child wanted = [] := rfl

@[simp] theorem child_nil (wanted : String) : nil.child wanted = [] := rfl

@[simp] theorem child_concat (name : String) (parts : List Content) :
    (concat parts).child name = parts.flatMap (child name) := by
  induction parts with
  | nil => rfl
  | cons x parts ih =>
    rw [List.flatMap_cons, ← ih]
    exact child_append x _ name

@[simp] theorem path_cons (name : String) (names : List String) :
    x.path (name :: names) = (x.child name).flatMap fun y => y.path names := rfl

@[simp] theorem path_nil : x.path [] = [x] := rfl

theorem texts_cons (name : String) (names : List String) :
    x.texts (name :: names) = (x.child name).flatMap fun y => y.texts names := by
  rw [texts, path_cons, List.map_flatMap]
  rfl

@[simp] theorem named_append : (x ++ y).Named ↔ x.Named ∧ y.Named := by
  induction x with
  | nil => exact (iff_of_eq (true_and _)).symm
  | char c rest ih => exact ih
  | void name attributes rest ih => simp [Named, ih, and_assoc]
  | element name attributes inner rest _ ih => simp [Named, ih, and_assoc]

@[simp] theorem named_ofText (s : List Char) : (ofText s).Named := by
  induction s with
  | nil => trivial
  | cons c s ih => exact ih

@[simp] theorem named_line (indent : ℕ) : (line indent).Named := named_ofText _

@[simp] theorem named_elWith (name : String) (attributes : Attributes) :
    (elWith name attributes x).Named ↔ isName name = true ∧ areAttributes attributes = true ∧ x.Named := by
  simp [elWith, Named]

@[simp] theorem named_el (name : String) : (el name x).Named ↔ isName name = true ∧ x.Named := by
  simp [el, areAttributes]

@[simp] theorem named_leaf (name s : String) : (leaf name s).Named ↔ isName name = true := by
  simp [leaf]

@[simp] theorem named_selfClosed (name : String) : (selfClosed name).Named ↔ isName name = true := by
  simp [selfClosed, Named, areAttributes]

@[simp] theorem named_nil : nil.Named := trivial

@[simp] theorem named_concat (parts : List Content) : (concat parts).Named ↔ ∀ x ∈ parts, x.Named := by
  induction parts with
  | nil => exact ⟨fun _ => by simp, fun _ => trivial⟩
  | cons x parts ih =>
    rw [List.forall_mem_cons, ← ih]
    exact named_append x _

@[simp] theorem clean_append : (x ++ y).Clean ↔ x.Clean ∧ y.Clean := by
  simp only [Clean, text_append, List.forall_mem_append]

@[simp] theorem clean_elWith (name : String) (attributes : Attributes) :
    (elWith name attributes x).Clean ↔ x.Clean := by
  rw [Clean, text_elWith, Clean]

@[simp] theorem clean_el (name : String) : (el name x).Clean ↔ x.Clean := clean_elWith x name []

@[simp] theorem clean_ofText (s : List Char) : (ofText s).Clean ↔ ∀ c ∈ s, isXmlChar c = true := by
  rw [Clean, text_ofText]

@[simp] theorem clean_line (indent : ℕ) : (line indent).Clean := by
  rw [line, clean_ofText]
  intro c mem
  rcases List.mem_cons.mp mem with rfl | mem
  · decide
  · obtain rfl := List.eq_of_mem_replicate mem
    decide

@[simp] theorem clean_leaf (name s : String) : (leaf name s).Clean ↔ XmlText s := by
  rw [Clean, text_leaf, XmlText]

@[simp] theorem clean_selfClosed (name : String) : (selfClosed name).Clean := by
  simp [Clean]

@[simp] theorem clean_nil : nil.Clean := by
  simp [Clean, text]

@[simp] theorem clean_concat (parts : List Content) : (concat parts).Clean ↔ ∀ x ∈ parts, x.Clean := by
  simp only [Clean, text_concat, List.mem_flatMap]
  exact ⟨fun all x part c mem => all c ⟨x, part, mem⟩, fun all c ⟨x, part, mem⟩ => all x part c mem⟩

end Content

theorem quotable_append {a b : String} (left : a.toList.all isQuotable = true)
    (right : b.toList.all isQuotable = true) : (a ++ b).toList.all isQuotable = true := by
  rw [String.toList_append, List.all_append, left, right]
  rfl

/-! ### What is written reads as the content -/

variable {c : Char} {name : String}

theorem lookup_escape : (∃ name, (c, name) ∈ entities ∧ escapeChar c = reference name) ∨
    (c ≠ '<' ∧ c ≠ '&' ∧ c ≠ '>' ∧ escapeChar c = [c]) := by
  cases found : entities.lookup c with
  | some name =>
    refine .inl ⟨name, ?_, by rw [escapeChar, found]⟩
    obtain ⟨before, after, whole, -⟩ := List.lookup_eq_some_iff.mp found
    rw [whole]
    exact List.mem_append_right _ List.mem_cons_self
  | none =>
    refine .inr ⟨?_, ?_, ?_, by rw [escapeChar, found]⟩ <;> rintro rfl <;> exact absurd found (by decide)

theorem render_head (x : Content) : ¬['>'] <+: render x := by
  rintro ⟨t, starts⟩
  cases x with
  | nil => cases starts
  | char c rest =>
    rw [render] at starts
    rcases lookup_escape (c := c) with ⟨name, -, written⟩ | ⟨-, -, other, written⟩
    · rw [written, reference] at starts
      exact absurd (List.cons.inj starts).1 (by decide)
    · rw [written] at starts
      exact other (List.cons.inj starts).1.symm
  | void name attributes rest => exact absurd (List.cons.inj starts).1 (by decide)
  | element name attributes inner rest => exact absurd (List.cons.inj starts).1 (by decide)

theorem render_close (x : Content) : ¬[']', '>'] <+: render x := by
  rintro ⟨t, starts⟩
  cases x with
  | nil => cases starts
  | char c rest =>
    rw [render] at starts
    rcases lookup_escape (c := c) with ⟨name, -, written⟩ | ⟨-, -, -, written⟩
    · rw [written, reference] at starts
      exact absurd (List.cons.inj starts).1 (by decide)
    · rw [written] at starts
      exact render_head rest ⟨t, (List.cons.inj starts).2⟩
  | void name attributes rest => exact absurd (List.cons.inj starts).1 (by decide)
  | element name attributes inner rest => exact absurd (List.cons.inj starts).1 (by decide)

variable {x : Content}

theorem reads_render (named : x.Named) (chars : x.Clean) : Reads (render x) x := by
  induction x with
  | nil => exact .nil
  | char c rest ih =>
    have after := ih named fun d mem => chars d (List.mem_cons_of_mem _ mem)
    rw [render]
    rcases lookup_escape (c := c) with ⟨name, mem, written⟩ | ⟨less, ampersand, -, written⟩
    · rw [written]
      exact .reference mem after
    · rw [written]
      refine .char (chars c List.mem_cons_self) less ampersand ?_ after
      rintro ⟨t, starts⟩
      exact render_close rest ⟨t, (List.cons.inj starts).2⟩
  | void name attributes rest ih =>
    obtain ⟨isName, areAttributes, named⟩ := named
    exact .void isName areAttributes (ih named chars)
  | element name attributes inner rest ihInner ih =>
    obtain ⟨isName, areAttributes, namedInner, named⟩ := named
    exact .element isName areAttributes (ihInner namedInner fun c mem => chars c (List.mem_append_left _ mem))
      (ih named fun c mem => chars c (List.mem_append_right _ mem))

/-! ### What reads as content has only XML characters -/

theorem all_of_name (valid : isName name = true) : ∀ c ∈ name.toList, isNameChar c = true := by
  rw [isName, Bool.and_eq_true, List.all_eq_true] at valid
  exact valid.2

theorem alphanum_range (valid : c.isAlphanum = true) : 32 ≤ c.toNat ∧ c.toNat < 128 := by
  have ranges : c.isAlphanum = (decide (c.val ≥ 'A'.val ∧ c.val ≤ 'Z'.val) ||
    (c.val ≥ 'a'.val && c.val ≤ 'z'.val) || (c.val ≥ '0'.val && c.val ≤ '9'.val)) := rfl
  simp only [ranges, Bool.or_eq_true, Bool.and_eq_true, decide_eq_true_eq] at valid
  have value : c.val.toNat = c.toNat := rfl
  simp only [ge_iff_le, UInt32.le_iff_toNat_le, value, Char.reduceVal, UInt32.reduceToNat] at valid
  omega

theorem isXmlChar_of_range (range_ : 32 ≤ c.toNat ∧ c.toNat < 128) : isXmlChar c = true := by
  have other : c.toNat ≠ 65534 ∧ c.toNat ≠ 65535 := by omega
  simp [isXmlChar, range_.1, other]

theorem isXmlChar_of_name (valid : isNameChar c = true) : isXmlChar c = true := by
  simp only [isNameChar, Bool.or_eq_true, decide_eq_true_eq] at valid
  rcases valid with (((alphanum | rfl) | rfl) | rfl) | rfl
  · exact isXmlChar_of_range (alphanum_range alphanum)
  all_goals decide

theorem isXmlChar_of_tag {attributes : Attributes} (valid : isName name = true)
    (areValid : areAttributes attributes = true) : ∀ c ∈ writeTag name attributes, isXmlChar c = true := by
  intro c mem
  rw [areAttributes, Bool.and_eq_true, List.all_eq_true] at areValid
  rcases List.mem_append.mp mem with mem | mem
  · exact isXmlChar_of_name (all_of_name valid c mem)
  · obtain ⟨a, has, mem⟩ := List.mem_flatMap.mp mem
    obtain ⟨first, second⟩ := (Bool.and_eq_true _ _).mp (areValid.1 a has)
    simp only [writeAttribute, List.mem_cons, List.mem_append, List.not_mem_nil, or_false] at mem
    rcases mem with rfl | mem | rfl | rfl | mem | rfl
    · decide
    · exact isXmlChar_of_name (all_of_name first c mem)
    · decide
    · decide
    · have quotable := List.all_eq_true.mp second c mem
      simp only [isQuotable, Bool.and_eq_true] at quotable
      exact quotable.1.1.1
    · decide

theorem Reads.isXmlChar {s : List Char} (reads : Reads s x) : ∀ c ∈ s, isXmlChar c = true := by
  have entity : ∀ e ∈ entities, ∀ c ∈ Xml.reference e.2, Xml.isXmlChar c = true := by decide +kernel
  intro c mem
  induction reads with
  | nil => cases mem
  | char valid _ _ _ _ ih =>
    rcases List.mem_cons.mp mem with rfl | mem
    · exact valid
    · exact ih mem
  | reference has _ ih =>
    rcases List.mem_append.mp mem with mem | mem
    · exact entity _ has c mem
    · exact ih mem
  | void valid areValid _ ih =>
    simp only [List.mem_cons, List.mem_append] at mem
    rcases mem with rfl | mem | rfl | rfl | mem
    · decide
    · exact isXmlChar_of_tag valid areValid c mem
    · decide
    · decide
    · exact ih mem
  | element valid areValid _ _ ihInner ih =>
    simp only [List.mem_cons, List.mem_append] at mem
    rcases mem with rfl | mem | rfl | mem | rfl | rfl | mem | rfl | mem
    · decide
    · exact isXmlChar_of_tag valid areValid c mem
    · decide
    · exact ihInner mem
    · decide
    · decide
    · exact isXmlChar_of_name (all_of_name valid c mem)
    · decide
    · exact ih mem

theorem mem_render (mem : c ∈ x.text) : isXmlChar c = true ∨ c ∈ render x := by
  have entity : ∀ e ∈ entities, isXmlChar e.1 = true := by decide
  induction x with
  | nil => cases mem
  | char d rest ih =>
    rw [render, List.mem_append]
    rcases List.mem_cons.mp mem with rfl | mem
    · rcases lookup_escape (c := c) with ⟨name, has, -⟩ | ⟨-, -, -, written⟩
      · exact .inl (entity _ has)
      · rw [written]
        exact .inr (.inl List.mem_cons_self)
    · exact (ih mem).imp_right .inr
  | void name attributes rest ih =>
    rcases ih mem with valid | mem
    · exact .inl valid
    · exact .inr (by simp [render, mem])
  | element name attributes inner rest ihInner ih =>
    rcases List.mem_append.mp mem with mem | mem
    · rcases ihInner mem with valid | mem
      · exact .inl valid
      · exact .inr (by simp [render, mem])
    · rcases ih mem with valid | mem
      · exact .inl valid
      · exact .inr (by simp [render, mem])

/-! ### A text reads in one way -/

section

variable {P : Char → Prop} {p q l m : List Char}

theorem span_unique (left : ∀ c ∈ p, P c) (right : ∀ c ∈ q, P c) (stopLeft : ∀ c ∈ l.head?, ¬P c)
    (stopRight : ∀ c ∈ m.head?, ¬P c) (same : p ++ l = q ++ m) : p = q ∧ l = m := by
  induction p generalizing q with
  | nil =>
    cases q with
    | nil => exact ⟨rfl, same⟩
    | cons b q =>
      rw [List.nil_append, List.cons_append] at same
      exact absurd (right b List.mem_cons_self) (stopLeft b (by rw [same]; rfl))
  | cons a p ih =>
    cases q with
    | nil =>
      rw [List.nil_append, List.cons_append] at same
      exact absurd (left a List.mem_cons_self) (stopRight a (by rw [← same]; rfl))
    | cons b q =>
      obtain ⟨rfl, tail⟩ := List.cons.inj same
      obtain ⟨rfl, rest⟩ := ih (fun c mem => left c (List.mem_cons_of_mem _ mem))
        (fun c mem => right c (List.mem_cons_of_mem _ mem)) tail
      exact ⟨rfl, rest⟩

end

theorem tag_unique {name other : String} {attributes others : Attributes} {a b : Char} {l m : List Char}
    (valid : isName name = true) (validOther : isName other = true)
    (areValid : areAttributes attributes = true) (areValidOthers : areAttributes others = true)
    (stop : a = '/' ∨ a = '>') (stopOther : b = '/' ∨ b = '>')
    (same : writeTag name attributes ++ a :: l = writeTag other others ++ b :: m) :
    name = other ∧ attributes = others ∧ a = b ∧ l = m := by
  have notName : ∀ {c : Char}, c = '/' ∨ c = '>' → isNameChar c ≠ true ∧ c ≠ ' ' := by
    rintro c (rfl | rfl) <;> decide
  have starts : ∀ {attributes : Attributes} {a : Char} {l : List Char}, a = '/' ∨ a = '>' →
      ∀ c ∈ (attributes.flatMap writeAttribute ++ a :: l).head?, isNameChar c ≠ true := by
    intro attributes a l stop c mem
    cases attributes with
    | nil =>
      obtain rfl := Option.some.inj mem
      exact (notName stop).1
    | cons first rest =>
      obtain rfl := Option.some.inj mem
      decide
  rw [writeTag, writeTag, List.append_assoc, List.append_assoc] at same
  obtain ⟨sameName, after⟩ := span_unique (all_of_name valid) (all_of_name validOther) (starts stop)
    (starts stopOther) same
  refine ⟨String.toList_injective sameName, ?_⟩
  rw [areAttributes, Bool.and_eq_true, List.all_eq_true] at areValid areValidOthers
  obtain ⟨areValid, -⟩ := areValid
  obtain ⟨areValidOthers, -⟩ := areValidOthers
  clear valid validOther sameName same
  induction attributes generalizing others with
  | nil =>
    cases others with
    | nil => exact ⟨rfl, List.cons.inj after⟩
    | cons other others => exact absurd (List.cons.inj after).1 (notName stop).2
  | cons first rest ih =>
    cases others with
    | nil => exact absurd (List.cons.inj after).1.symm (notName stopOther).2
    | cons other others =>
      obtain ⟨name, value⟩ := first
      obtain ⟨otherName, otherValue⟩ := other
      simp only [List.flatMap_cons, writeAttribute, List.cons_append, List.append_assoc, List.nil_append] at after
      have here := (Bool.and_eq_true _ _).mp (areValid _ List.mem_cons_self)
      have there := (Bool.and_eq_true _ _).mp (areValidOthers _ List.mem_cons_self)
      obtain ⟨sameName, afterName⟩ := span_unique (P := fun c => isNameChar c = true) (all_of_name here.1)
        (all_of_name there.1) (by rintro c ⟨⟩; decide) (by rintro c ⟨⟩; decide) (List.cons.inj after).2
      obtain ⟨sameValue, afterValue⟩ := span_unique (P := fun c => isQuotable c = true) (List.all_eq_true.mp here.2)
        (List.all_eq_true.mp there.2) (by rintro c ⟨⟩; decide) (by rintro c ⟨⟩; decide)
        (List.cons.inj (List.cons.inj afterName).2).2
      obtain ⟨rfl, sameEnd⟩ := ih (List.cons.inj afterValue).2
        (fun a mem => areValid a (List.mem_cons_of_mem _ mem))
        fun a mem => areValidOthers a (List.mem_cons_of_mem _ mem)
      obtain rfl : name = otherName := String.toList_injective sameName
      obtain rfl : value = otherValue := String.toList_injective sameValue
      exact ⟨rfl, sameEnd⟩

def Stops (u : List Char) : Prop := u = [] ∨ ∃ v, u = '<' :: '/' :: v

theorem reference_unique {c d : Char} {name other : String} {l m : List Char} (has : (c, name) ∈ entities)
    (hasOther : (d, other) ∈ entities) (same : reference name ++ l = reference other ++ m) :
    c = d ∧ name = other ∧ l = m := by
  have free : ∀ e ∈ entities, ∀ c ∈ e.2.toList, c ≠ ';' := by decide +kernel
  have one : ∀ e ∈ entities, ∀ f ∈ entities, e.2 = f.2 → e.1 = f.1 := by decide
  simp only [reference, List.cons_append, List.append_assoc, List.nil_append, List.cons.injEq, true_and] at same
  obtain ⟨sameName, after⟩ := span_unique (free _ has) (free _ hasOther) (by rintro c ⟨⟩; decide)
    (by rintro c ⟨⟩; decide) same
  have whole := String.toList_injective sameName
  exact ⟨one _ has _ hasOther whole, whole, (List.cons.inj after).2⟩

theorem name_starts (valid : isName name = true) (attributes : Attributes) (l : List Char) :
    ∃ c tail, writeTag name attributes ++ l = c :: tail ∧ c ≠ '/' := by
  rw [isName, Bool.and_eq_true] at valid
  obtain ⟨starts, all⟩ := valid
  rw [writeTag]
  cases shape : name.toList with
  | nil =>
    rw [shape] at starts
    cases starts
  | cons c tail =>
    refine ⟨c, tail ++ attributes.flatMap writeAttribute ++ l, rfl, ?_⟩
    rintro rfl
    rw [shape] at all
    exact absurd (List.all_eq_true.mp all '/' List.mem_cons_self) (by decide)

theorem Reads.stops {t u v : List Char} {y : Content} (reads : Reads t y) (stop : Stops u) (same : u = t ++ v) :
    t = [] ∧ y = .nil := by
  cases reads with
  | nil => exact ⟨rfl, rfl⟩
  | char _ less _ _ _ =>
    rcases stop with rfl | ⟨w, rfl⟩
    · cases same
    · exact absurd (List.cons.inj same).1.symm less
  | reference _ _ =>
    rcases stop with rfl | ⟨w, rfl⟩
    · cases same
    · exact absurd (List.cons.inj same).1 (by decide)
  | @void name attributes s x valid _ _ =>
    obtain ⟨c, tail, starts, other⟩ := name_starts valid attributes ('/' :: '>' :: s)
    rw [starts] at same
    rcases stop with rfl | ⟨w, rfl⟩
    · cases same
    · exact absurd (List.cons.inj (List.cons.inj same).2).1.symm other
  | @element name attributes t y s x valid _ _ _ =>
    obtain ⟨c, tail, starts, other⟩ := name_starts valid attributes
      ('>' :: (t ++ '<' :: '/' :: (name.toList ++ '>' :: s)))
    rw [starts] at same
    rcases stop with rfl | ⟨w, rfl⟩
    · cases same
    · exact absurd (List.cons.inj (List.cons.inj same).2).1.symm other

theorem Reads.unique {s t u v : List Char} {y : Content} (left : Reads s x) (right : Reads t y) (stop : Stops u)
    (stopOther : Stops v) (same : s ++ u = t ++ v) : s = t ∧ x = y := by
  induction left generalizing t u v y with
  | nil =>
    obtain ⟨rfl, rfl⟩ := right.stops stop same
    exact ⟨rfl, rfl⟩
  | char valid less ampersand _ reads ih =>
    cases right with
    | nil => exact absurd (Reads.stops (.char valid less ampersand ‹_› reads) stopOther same.symm).1 (by simp)
    | char _ _ _ _ readsOther =>
      obtain ⟨rfl, after⟩ := List.cons.inj same
      obtain ⟨rfl, rfl⟩ := ih readsOther stop stopOther after
      exact ⟨rfl, rfl⟩
    | reference _ _ => exact absurd (List.cons.inj same).1 ampersand
    | void _ _ _ => exact absurd (List.cons.inj same).1 less
    | element _ _ _ _ => exact absurd (List.cons.inj same).1 less
  | reference has reads ih =>
    cases right with
    | nil => exact absurd (Reads.stops (.reference has reads) stopOther same.symm).1 (by simp [Xml.reference])
    | char _ _ ampersand _ _ => exact absurd (List.cons.inj same).1.symm ampersand
    | reference hasOther readsOther =>
      rw [List.append_assoc, List.append_assoc] at same
      obtain ⟨rfl, rfl, after⟩ := reference_unique has hasOther same
      obtain ⟨rfl, rfl⟩ := ih readsOther stop stopOther after
      exact ⟨rfl, rfl⟩
    | void _ _ _ => exact absurd (List.cons.inj same).1 (by decide)
    | element _ _ _ _ => exact absurd (List.cons.inj same).1 (by decide)
  | void valid areValid reads ih =>
    cases right with
    | nil => exact absurd (Reads.stops (.void valid areValid reads) stopOther same.symm).1 (by simp)
    | char _ less _ _ _ => exact absurd (List.cons.inj same).1.symm less
    | reference _ _ => exact absurd (List.cons.inj same).1 (by decide)
    | void validOther areValidOther readsOther =>
      simp only [List.cons_append, List.append_assoc, List.cons.injEq, true_and] at same
      obtain ⟨rfl, rfl, -, after⟩ := tag_unique valid validOther areValid areValidOther (.inl rfl) (.inl rfl) same
      obtain ⟨rfl, rfl⟩ := ih readsOther stop stopOther (List.cons.inj after).2
      exact ⟨rfl, rfl⟩
    | element validOther areValidOther _ _ =>
      simp only [List.cons_append, List.append_assoc, List.cons.injEq, true_and] at same
      obtain ⟨-, -, slash, -⟩ := tag_unique valid validOther areValid areValidOther (.inl rfl) (.inr rfl) same
      exact absurd slash (by decide)
  | element valid areValid readsInner reads ihInner ih =>
    cases right with
    | nil =>
      exact absurd (Reads.stops (.element valid areValid readsInner reads) stopOther same.symm).1 (by simp)
    | char _ less _ _ _ => exact absurd (List.cons.inj same).1.symm less
    | reference _ _ => exact absurd (List.cons.inj same).1 (by decide)
    | void validOther areValidOther _ =>
      simp only [List.cons_append, List.append_assoc, List.cons.injEq, true_and] at same
      obtain ⟨-, -, slash, -⟩ := tag_unique valid validOther areValid areValidOther (.inr rfl) (.inl rfl) same
      exact absurd slash (by decide)
    | element validOther areValidOther readsInnerOther readsOther =>
      simp only [List.cons_append, List.append_assoc, List.cons.injEq, true_and] at same
      obtain ⟨rfl, rfl, -, inside⟩ := tag_unique valid validOther areValid areValidOther (.inr rfl) (.inr rfl) same
      obtain ⟨rfl, rfl⟩ := ihInner readsInnerOther (.inr ⟨_, rfl⟩) (.inr ⟨_, rfl⟩) inside
      have after := List.append_cancel_left inside
      simp only [List.cons.injEq, true_and, List.append_cancel_left_eq] at after
      obtain ⟨rfl, rfl⟩ := ih readsOther stop stopOther after
      exact ⟨rfl, rfl⟩

/-! ### Documents -/

theorem Document.unique {s : List Char} {y : Content} (left : Document s x) (right : Document s y) : x = y := by
  obtain ⟨-, t, rfl, reads⟩ := left
  obtain ⟨-, u, same, readsOther⟩ := right
  have same := List.append_cancel_left same
  rw [← same] at readsOther
  exact (reads.unique readsOther (.inl rfl) (.inl rfl) rfl).2

/-- What is written of an element is a document if and only if all its characters are XML characters, and
then it reads as that element. -/
theorem document_render_iff (root : x.IsRoot) (named : x.Named) {p : Content → Prop} :
    (∃ y, Document (declaration ++ render x) y ∧ p y) ↔ x.Clean ∧ p x := by
  constructor
  · rintro ⟨y, document, holds⟩
    have clean : x.Clean := by
      obtain ⟨-, t, same, reads⟩ := document
      rw [← List.append_cancel_left same] at reads
      exact fun c mem => (mem_render mem).elim id fun written => reads.isXmlChar c written
    have own : Document (declaration ++ render x) x := ⟨root, _, rfl, reads_render named clean⟩
    exact ⟨clean, own.unique document ▸ holds⟩
  · rintro ⟨clean, holds⟩
    exact ⟨x, ⟨root, _, rfl, reads_render named clean⟩, holds⟩

end Xml
