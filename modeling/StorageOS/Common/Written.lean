import StorageOS.Billing.Hash
import StorageOS.Saas.EndToEndIds
import StorageOS.Lib.Xml

/-! The characters of the numbers, amounts and dates that the program writes. -/

namespace StorageOS

open Xml FixedWidth

open scoped MemberByMember

theorem isXmlChar_of_isDigit {c : Char} (digit : c.isDigit = true) : isXmlChar c = true :=
  isXmlChar_of_range (alphanum_range (by rw [Char.isAlphanum, digit, Bool.or_true]))

theorem isXmlChar_toString (n : ℕ) : ∀ c ∈ (toString n).toList, isXmlChar c = true := fun _ mem =>
  isXmlChar_of_isDigit (digits_toString mem)

theorem isXmlChar_decimal (width n : ℕ) : ∀ c ∈ decimal width n, isXmlChar c = true := fun _ mem =>
  isXmlChar_of_isDigit (isDigit_of_mem_decimal mem)

theorem int_chars (i : ℤ) : ∀ c ∈ (toString i).toList, c.isDigit = true ∨ c = '-' := by
  intro c mem
  cases i with
  | ofNat n => exact .inl (digits_toString (n := n) mem)
  | negSucc n =>
    rw [show toString (Int.negSucc n) = "-" ++ toString (n + 1) from rfl, String.toList_append,
      List.mem_append] at mem
    rcases mem with mem | mem
    · exact .inr (List.mem_singleton.mp mem)
    · exact .inl (digits_toString mem)

theorem forall_padStart {P : Char → Prop} {s : String} (length : ℕ) (zero : P '0') (all : ∀ c ∈ s.toList, P c) :
    ∀ c ∈ (padStart length s).toList, P c := by
  intro c mem
  rw [padStart, String.toList_append, String.toList_ofList, List.mem_append] at mem
  rcases mem with mem | mem
  · rw [List.eq_of_mem_replicate mem]
    exact zero
  · exact all c mem

@[simp] theorem xmlText_toFixed2 (cents : ℤ) : XmlText (toFixed2 cents) := by
  have sign : ∀ c ∈ (if cents < 0 then "-" else "").toList, isXmlChar c = true := by
    split <;> decide +kernel
  simp only [XmlText, toFixed2, String.toList_append, List.forall_mem_append]
  have point : ∀ c ∈ ".".toList, isXmlChar c = true := by decide +kernel
  exact ⟨⟨⟨sign, isXmlChar_toString _⟩, point⟩, forall_padStart 2 (by decide +kernel) (isXmlChar_toString _)⟩

theorem isXmlChar_isoDay (d : Date) : ∀ c ∈ isoDay d, isXmlChar c = true := by
  have hyphen : isXmlChar '-' = true := by decide
  rw [isoDay]
  split
  · simp only [List.forall_mem_append, List.forall_mem_cons]
    exact ⟨⟨isXmlChar_decimal _ _, hyphen, isXmlChar_decimal _ _⟩, hyphen, isXmlChar_decimal _ _⟩
  · simp only [List.forall_mem_append, List.forall_mem_cons]
    refine ⟨⟨?_, isXmlChar_decimal _ _⟩, hyphen, isXmlChar_decimal _ _⟩
    split <;> decide

theorem formatSpanishDate_chars (d : Date) :
    ∀ c ∈ (formatSpanishDate d).toList, c.isDigit = true ∨ c = '-' := by
  have hyphen : ∀ c ∈ "-".toList, c.isDigit = true ∨ c = '-' := by decide +kernel
  have part : ∀ length (i : ℤ), ∀ c ∈ (padStart length (toString i)).toList, c.isDigit = true ∨ c = '-' :=
    fun length i => forall_padStart (P := fun c => c.isDigit = true ∨ c = '-') length (by decide) (int_chars i)
  simp only [formatSpanishDate, String.toList_append, List.forall_mem_append]
  exact ⟨⟨⟨⟨part _ _, hyphen⟩, part _ _⟩, hyphen⟩, part _ _⟩

@[simp] theorem xmlText_formatSpanishDate (d : Date) : XmlText (formatSpanishDate d) := by
  intro c mem
  rcases formatSpanishDate_chars d c mem with digit | rfl
  · exact isXmlChar_of_isDigit digit
  · decide

theorem trim_formatSpanishDate (d : Date) : trim (formatSpanishDate d) = formatSpanishDate d := by
  refine trim_of_noSpace fun c mem => ?_
  rcases formatSpanishDate_chars d c mem with digit | rfl
  · exact isSpace_of_isDigit digit
  · decide

end StorageOS
