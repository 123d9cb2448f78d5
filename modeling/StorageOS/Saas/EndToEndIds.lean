import StorageOS.Billing.Rows
import StorageOS.Lib.FixedWidth
import StorageOS.Lib.Gregorian

/-! The end-to-end id of a SEPA debit of the platform, and what of the debit it tells. -/

namespace StorageOS

open FixedWidth Gregorian

/-- The first ten characters of `toISOString`. -/
def isoDay (d : Date) : List Char :=
  let y := year d
  if 0 ≤ y ∧ y ≤ 9999 then
    decimal 4 y.toNat ++ '-' :: decimal 2 (month d).toNat ++ '-' :: decimal 2 (day d).toNat
  else (if y < 0 then '-' else '+') :: decimal 6 y.natAbs ++ '-' :: decimal 2 (month d).toNat

def retrySuffix (retries : ℕ) : List Char :=
  if 0 < retries then '-' :: 'R' :: (toString retries).toList else []

def endToEndPrefix : List Char := "E2E-SAAS-".toList

def keptSlug (slug : String) (periodCovered : Date) (retries : ℕ) : List Char :=
  (slug.toList.filter fun c => c.isAlphanum || c = '-').take
    (35 - endToEndPrefix.length - 1 - (isoDay periodCovered).length - (retrySuffix retries).length)

def platformEndToEndId (slug : String) (periodCovered : Date) (retries : ℕ) : String :=
  String.ofList (endToEndPrefix ++ keptSlug slug periodCovered retries ++
    '-' :: isoDay periodCovered ++ retrySuffix retries)

example : platformEndToEndId "trasteros-madrid-norte" (date 2026 3 15) 0 =
    "E2E-SAAS-trasteros-madri-2026-03-15" := by decide +kernel

theorem digits_end {xs ys ds es : List Char} {c c' : Char} (same : xs ++ c :: ds = ys ++ c' :: es)
    (digits : ∀ x ∈ ds, x.isDigit = true) (digits' : ∀ x ∈ es, x.isDigit = true)
    (other : c.isDigit = false) (other' : c'.isDigit = false) : xs = ys ∧ c = c' ∧ ds = es := by
  rcases List.append_eq_append_iff.mp same with ⟨between, rfl, ends⟩ | ⟨between, rfl, ends⟩
  · cases between with
    | nil =>
      obtain ⟨rfl, rfl⟩ := List.cons.inj ends
      exact ⟨(List.append_nil xs).symm, rfl, rfl⟩
    | cons x between =>
      obtain ⟨-, rfl⟩ := List.cons.inj ends
      have digit := digits c' (List.mem_append_right _ List.mem_cons_self)
      exact absurd digit (by simp [other'])
  · cases between with
    | nil =>
      obtain ⟨rfl, rfl⟩ := List.cons.inj ends
      exact ⟨List.append_nil ys, rfl, rfl⟩
    | cons x between =>
      obtain ⟨-, rfl⟩ := List.cons.inj ends
      have digit := digits' c (List.mem_append_right _ List.mem_cons_self)
      exact absurd digit (by simp [other])

@[simp] theorem length_isoDay (d : Date) : (isoDay d).length = 10 := by
  simp only [isoDay]
  split <;> simp

theorem isoDay_ends (d : Date) : ∃ start n, isoDay d = start ++ '-' :: decimal 2 n := by
  simp only [isoDay]
  split
  · exact ⟨_, _, rfl⟩
  · exact ⟨_ :: _, _, rfl⟩

theorem digits_toString {n : ℕ} {c : Char} (mem : c ∈ (toString n).toList) : c.isDigit = true := by
  rw [Nat.toString_eq_repr, Nat.toList_repr] at mem
  exact Nat.isDigit_of_mem_toDigits (by decide) (by decide) mem

theorem toString_toList_inj {m n : ℕ} (same : (toString m).toList = (toString n).toList) : m = n := by
  rw [Nat.toString_eq_repr, Nat.toString_eq_repr, Nat.toList_repr, Nat.toList_repr] at same
  rw [← Nat.ofDigitChars_ten_toDigits (n := m), same, Nat.ofDigitChars_ten_toDigits]

theorem retrySuffix_ends {start start' : List Char} {d d' : Date} {retries retries' : ℕ}
    (same : start ++ isoDay d ++ retrySuffix retries = start' ++ isoDay d' ++ retrySuffix retries') :
    retries = retries' ∧ start ++ isoDay d = start' ++ isoDay d' := by
  obtain ⟨front, n, ends⟩ := isoDay_ends d
  obtain ⟨front', n', ends'⟩ := isoDay_ends d'
  have number : ∀ n, ∀ c ∈ decimal 2 n, c.isDigit = true := fun n c mem => isDigit_of_mem_decimal mem
  have split : start ++ (front ++ '-' :: decimal 2 n) = (start ++ front) ++ '-' :: decimal 2 n :=
    (List.append_assoc start front _).symm
  have split' : start' ++ (front' ++ '-' :: decimal 2 n') = (start' ++ front') ++ '-' :: decimal 2 n' :=
    (List.append_assoc start' front' _).symm
  have marked : ∀ text digits : List Char,
      text ++ '-' :: 'R' :: digits = (text ++ ['-']) ++ 'R' :: digits := by simp
  simp only [retrySuffix] at same
  by_cases again : 0 < retries
  · by_cases again' : 0 < retries'
    · rw [if_pos again, if_pos again', marked, marked] at same
      obtain ⟨texts, -, numbers⟩ := digits_end same (fun _ => digits_toString) (fun _ => digits_toString)
        (by decide) (by decide)
      exact ⟨toString_toList_inj numbers, List.append_cancel_right texts⟩
    · rw [if_pos again, if_neg again', List.append_nil, marked, ends', split'] at same
      obtain ⟨-, mark, -⟩ := digits_end same (fun _ => digits_toString) (number n') (by decide) (by decide)
      cases mark
  · by_cases again' : 0 < retries'
    · rw [if_neg again, if_pos again', List.append_nil, marked, ends, split] at same
      obtain ⟨-, mark, -⟩ := digits_end same (number n) (fun _ => digits_toString) (by decide) (by decide)
      cases mark
    · rw [if_neg again, if_neg again', List.append_nil, List.append_nil] at same
      exact ⟨by omega, same⟩

/-- Two debits have the same id only if the date, the retries and what is kept of the slugs are the same. -/
theorem platformEndToEndId_inj {slug slug' : String} {d d' : Date} {retries retries' : ℕ}
    (same : platformEndToEndId slug d retries = platformEndToEndId slug' d' retries') :
    keptSlug slug d retries = keptSlug slug' d' retries' ∧ isoDay d = isoDay d' ∧ retries = retries' := by
  have texts := String.ofList_injective same
  have hyphened : ∀ text date suffix : List Char,
      text ++ '-' :: date ++ suffix = (text ++ ['-']) ++ date ++ suffix := by simp
  rw [hyphened _ (isoDay d), hyphened _ (isoDay d')] at texts
  obtain ⟨times, fronts⟩ := retrySuffix_ends texts
  obtain ⟨fronts, dates⟩ := List.append_inj' fronts (by simp)
  have slugs : endToEndPrefix ++ keptSlug slug d retries = endToEndPrefix ++ keptSlug slug' d' retries' :=
    List.append_cancel_right fronts
  exact ⟨List.append_cancel_left slugs, dates, times⟩

end StorageOS
