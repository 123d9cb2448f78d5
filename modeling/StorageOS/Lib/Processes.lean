import Mathlib.Algebra.BigOperators.Group.List.Basic
import Mathlib.Tactic.Abel
import StorageOS.Lib.Transition

/-! Requests under way on one database. A request makes its reads and writes in transactions, each
one step here, and the transactions of other requests come between two of them. -/

namespace Processes

structure State (σ ρ : Type*) where
  db : σ
  running : List ρ
  deriving DecidableEq

inductive Action (β γ : Type*)
  | start (request : β)
  | advance (i : ℕ) (input : γ)

/-- What requests do: `enter` reads and `next` makes a transaction, after which the request is over
or goes on. A transaction that fails changes nothing. -/
structure System (σ ρ β γ : Type*) where
  enter : σ → β → Option ρ
  next : σ → ρ → γ → Option (σ × Option ρ)

variable {σ ρ β γ : Type*}

/-- The requests under way after one of them has made a transaction. -/
def resume (running : List ρ) (i : ℕ) : Option ρ → List ρ
  | some r => running.set i r
  | none => running.eraseIdx i

variable {running : List ρ} {i : ℕ} {rest : Option ρ} {r : ρ} {p : ρ → Bool}

/-- A request that is over does not go on. -/
theorem goesOn_none {P : ρ → Prop} : ∀ r, (none : Option ρ) = some r → P r := fun _ goesOn => by cases goesOn

theorem mem_resume (h : r ∈ resume running i rest) : r ∈ running ∨ rest = some r := by
  cases rest with
  | none => exact .inl (List.mem_of_mem_eraseIdx h)
  | some r' =>
    rcases List.mem_or_eq_of_mem_set h with h | h
    · exact .inl h
    · exact .inr (by rw [h])

theorem mem_resume_self (found : running[i]? = some r) (r' : ρ) :
    r' ∈ resume running i (some r') :=
  List.mem_set (List.getElem?_eq_some_iff.mp found).1 r'

theorem mem_resume_of_ne {i j : ℕ} (found : running[j]? = some r) (other : j ≠ i) (rest : Option ρ) :
    r ∈ resume running i rest := by
  cases rest with
  | none => exact List.mem_eraseIdx_iff_getElem?.mpr ⟨j, other, found⟩
  | some r' =>
    refine List.mem_of_getElem? (i := j) ?_
    rw [resume, List.getElem?_set_ne (Ne.symm other), found]

/-- A request under way that does something for the others goes on doing it, or hands it over to what
it does next. -/
theorem exists_resume {C : ρ → Prop} (found : running[i]? = some r) (before : ∃ r' ∈ running, C r')
    (handed : C r → ∃ r', rest = some r' ∧ C r') : ∃ r' ∈ resume running i rest, C r' := by
  obtain ⟨r', mem, does⟩ := before
  obtain ⟨j, place⟩ := List.mem_iff_getElem?.mp mem
  by_cases same : j = i
  · subst same
    rw [found] at place
    cases place
    obtain ⟨r'', rfl, does'⟩ := handed does
    exact ⟨r'', mem_resume_self found r'', does'⟩
  · exact ⟨r', mem_resume_of_ne place same rest, does⟩

theorem resume_split (found : running[i]? = some r) (rest : Option ρ) : ∃ before after, running = before ++ r :: after ∧
      resume running i rest = before ++ (rest.toList ++ after) := by
  obtain ⟨bound, here⟩ := List.getElem?_eq_some_iff.mp found
  refine ⟨running.take i, running.drop (i + 1), ?_, ?_⟩
  · rw [← here, List.getElem_cons_drop, List.take_append_drop]
  · cases rest with
    | none => exact List.eraseIdx_eq_take_drop_succ running i
    | some r' => simp [resume, List.set_eq_take_append_cons_drop, bound]

/-- The requests of a kind stay the same when a request of another kind goes on as one of another. -/
theorem filter_resume_other (found : running[i]? = some r) (out : p r = false)
    (stays : ∀ r', rest = some r' → p r' = false) :
    (resume running i rest).filter p = running.filter p := by
  obtain ⟨before, after, split, resumed⟩ := resume_split found rest
  have gone : rest.toList.filter p = [] :=
    List.filter_eq_nil_iff.mpr fun r' mem => by simp [stays r' (Option.mem_toList.mp mem)]
  rw [resumed, split, List.filter_append, List.filter_append, List.filter_append, gone,
    List.filter_cons_of_neg (by simp [out]), List.nil_append]

theorem filter_resume_first {r r' : ρ} (found : running[i]? = some r) (alone : running.filter p = [])
    (joins : p r' = true) :
    (resume running i (some r')).filter p = [r'] := by
  obtain ⟨before, after, split, resumed⟩ := resume_split found (some r')
  rw [split, List.filter_append, List.append_eq_nil_iff] at alone
  rw [resumed, List.filter_append, alone.1]
  have rest : after.filter p = [] := by
    have none_after := alone.2
    rw [List.filter_eq_nil_iff] at none_after ⊢
    exact fun x mem => none_after x (List.mem_cons_of_mem _ mem)
  simp [joins, rest]

theorem filter_resume_own {r x : ρ} (found : running[i]? = some r) (only : running.filter p = [x]) (own : p r = true) :
    x = r ∧ (resume running i rest).filter p = rest.toList.filter p := by
  obtain ⟨before, after, split, resumed⟩ := resume_split found rest
  rw [split, List.filter_append, List.filter_cons_of_pos own] at only
  have none_before : before.filter p = [] := by
    cases h : before.filter p with
    | nil => rfl
    | cons y ys => simp [h] at only
  rw [none_before, List.nil_append, List.cons.injEq] at only
  exact ⟨only.1.symm, by rw [resumed]; simp [none_before, only.2]⟩

/-- The requests of a kind are no more than before when the one that moves only goes on as one of the
kind if it was. -/
theorem length_filter_resume_le (found : running[i]? = some r) (stays : ∀ r', rest = some r' → p r' → p r) :
    ((resume running i rest).filter p).length ≤ (running.filter p).length := by
  obtain ⟨before, after, split, resumed⟩ := resume_split found rest
  rw [resumed, split]
  simp only [List.filter_append, List.length_append, List.filter_cons]
  cases rest with
  | none => by_cases own : p r <;> simp [own]
  | some r' =>
    have keep := stays r' rfl
    by_cases joins : p r'
    · simp [joins, keep joins]
      omega
    · by_cases own : p r <;> simp [joins, own]

/-- What `g` reads off the requests under way changes by what it reads off the one that moves. -/
theorem filterMap_resume {τ : Type*} (g : ρ → Option τ) (found : running[i]? = some r) (rest : Option ρ) :
    ((g r).toList ++ (resume running i rest).filterMap g).Perm
      (running.filterMap g ++ (rest.bind g).toList) := by
  induction running generalizing i with
  | nil => simp at found
  | cons head tail ih =>
    cases i with
    | zero =>
      obtain rfl : head = r := by simpa using found
      cases rest with
      | none => cases h : g head <;> simp [resume, h]
      | some r' =>
        cases h : g head <;> cases h' : g r' <;> simp only [resume, List.set_cons_zero,
          List.filterMap_cons, h, h', Option.toList_none, Option.toList_some, Option.bind_some,
          List.nil_append, List.append_nil, List.cons_append]
        · exact .refl _
        · exact (List.perm_append_singleton _ _).symm
        · exact .refl _
        · exact ((List.perm_append_singleton _ _).symm.cons _)
    | succ i =>
      have ih := ih (by simpa using found)
      have shift : resume (head :: tail) (i + 1) rest = head :: resume tail i rest := by
        cases rest <;> rfl
      rw [shift]
      cases h : g head with
      | none => simpa [h] using ih
      | some x =>
        rw [List.filterMap_cons_some h, List.filterMap_cons_some h]
        exact List.perm_middle.trans (ih.cons x)

/-- A sum over the requests under way changes by what the one that moves weighs. -/
theorem sum_resume {M : Type*} [AddCommMonoid M] (w : ρ → M) (found : running[i]? = some r) (rest : Option ρ) :
    ((resume running i rest).map w).sum + w r =
      (running.map w).sum + (rest.map w).getD 0 := by
  obtain ⟨before, after, split, resumed⟩ := resume_split found rest
  rw [resumed, split]
  cases rest <;> simp only [List.map_append, List.map_cons, List.sum_append, List.sum_cons,
    Option.toList_none, Option.toList_some, Option.map_none, Option.map_some, Option.getD_none,
    Option.getD_some, List.map_nil, List.sum_nil] <;> abel

namespace System

variable (sys : System σ ρ β γ)

def step (s : State σ ρ) : Action β γ → Option (State σ ρ)
  | .start request => (sys.enter s.db request).map fun r => { s with running := s.running ++ [r] }
  | .advance i input =>
    (s.running[i]?).bind fun r =>
      (sys.next s.db r input).map fun made => ⟨made.1, resume s.running i made.2⟩

def admits (ok : σ → ρ → γ → Prop) (s : State σ ρ) : Action β γ → Prop
  | .start _ => True
  | .advance i input => ∀ r ∈ s.running[i]?, ok s.db r input

instance decidableAdmits (ok : σ → ρ → γ → Prop) [∀ db r input, Decidable (ok db r input)]
    (s : State σ ρ) : (a : Action β γ) → Decidable (admits ok s a)
  | .start _ => inferInstanceAs (Decidable True)
  | .advance i input => inferInstanceAs (Decidable (∀ r ∈ s.running[i]?, ok s.db r input))

/-- A condition on transactions that also reads the requests under way. -/
def admitsIn (ok : State σ ρ → ρ → γ → Prop) (s : State σ ρ) : Action β γ → Prop
  | .start _ => True
  | .advance i input => ∀ r ∈ s.running[i]?, ok s r input

instance decidableAdmitsIn (ok : State σ ρ → ρ → γ → Prop) [∀ s r input, Decidable (ok s r input)]
    (s : State σ ρ) : (a : Action β γ) → Decidable (admitsIn ok s a)
  | .start _ => inferInstanceAs (Decidable True)
  | .advance i input => inferInstanceAs (Decidable (∀ r ∈ s.running[i]?, ok s r input))

variable {sys} {ok : σ → ρ → γ → Prop} {s t : State σ ρ} {a : Action β γ}

theorem admitted (run : Transition.Reaches sys.step s t) :
    Transition.Run sys.step (admits fun _ _ _ => True) s t :=
  run.mono fun x a _ => by cases a <;> simp [admits]

theorem admits_mono {ok' : σ → ρ → γ → Prop}
    (run : Transition.Run sys.step (admits ok) s t)
    (weaker : ∀ db r input, ok db r input → ok' db r input) :
    Transition.Run sys.step (admits ok') s t := by
  refine run.mono fun x a fits => ?_
  cases a with
  | start => trivial
  | advance i input => exact fun r found => weaker _ _ _ (fits r found)

/-- A step leaves the database alone or is a transaction of a request under way. -/
theorem step_cases (h : sys.step s a = some t) :
    (∃ request r, a = .start request ∧ sys.enter s.db request = some r ∧
      t = ⟨s.db, s.running ++ [r]⟩) ∨
    (∃ i input r db rest, a = .advance i input ∧ s.running[i]? = some r ∧
      sys.next s.db r input = some (db, rest) ∧ t = ⟨db, resume s.running i rest⟩) := by
  cases a with
  | start request =>
    simp only [step, Option.map_eq_some_iff] at h
    obtain ⟨r, entered, rfl⟩ := h
    exact .inl ⟨request, r, rfl, entered, rfl⟩
  | advance i input =>
    simp only [step, Option.bind_eq_some_iff, Option.map_eq_some_iff] at h
    obtain ⟨r, found, ⟨db, rest⟩, made, rfl⟩ := h
    exact .inr ⟨i, input, r, db, rest, rfl, found, made, rfl⟩

variable {P : σ → Prop} {Q : σ → ρ → Prop} {J : State σ ρ → Prop}

/-- What the reads establish for a request and the transactions keep for the others holds of every
request under way, beside what the transactions keep of the database and what every step keeps of
both together. -/
theorem invariant_with (run : Transition.Run sys.step (admits ok) s t) (startDb : P s.db)
    (startRunning : ∀ r ∈ s.running, Q s.db r) (startBoth : J s)
    (enter : ∀ {db request r}, P db → sys.enter db request = some r → Q db r)
    (next : ∀ {db r input db' rest}, P db → Q db r → ok db r input →
      sys.next db r input = some (db', rest) →
      P db' ∧ (∀ r', rest = some r' → Q db' r') ∧ ∀ other, Q db other → Q db' other)
    (enterBoth : ∀ {db running request r}, P db → J ⟨db, running⟩ →
      sys.enter db request = some r → J ⟨db, running ++ [r]⟩)
    (nextBoth : ∀ {db running i r input db' rest}, P db → Q db r → J ⟨db, running⟩ →
      ok db r input → running[i]? = some r → sys.next db r input = some (db', rest) →
      J ⟨db', resume running i rest⟩) :
    P t.db ∧ (∀ r ∈ t.running, Q t.db r) ∧ J t := by
  apply Transition.Run.invariant (P := fun x => P x.db ∧ (∀ r ∈ x.running, Q x.db r) ∧ J x) run
    ⟨startDb, startRunning, startBoth⟩
  intro x a y before admitted taken
  obtain ⟨hdb, hrunning, hboth⟩ := before
  rcases step_cases taken with ⟨request, r, rfl, entered, rfl⟩ |
    ⟨i, input, r, db, rest, rfl, found, made, rfl⟩
  · refine ⟨hdb, fun r' mem => ?_, enterBoth hdb hboth entered⟩
    rcases List.mem_append.mp mem with mem | mem
    · exact hrunning r' mem
    · rw [List.mem_singleton.mp mem]
      exact enter hdb entered
  · have hr := hrunning r (List.mem_of_getElem? found)
    have fits := admitted r found
    obtain ⟨hdb', hrest, others⟩ := next hdb hr fits made
    refine ⟨hdb', fun r' mem => ?_, nextBoth hdb hr hboth fits found made⟩
    rcases mem_resume mem with mem | mem
    · exact others r' (hrunning r' mem)
    · exact hrest r' mem

theorem invariant (run : Transition.Run sys.step (admits ok) s t) (startDb : P s.db)
    (startRunning : ∀ r ∈ s.running, Q s.db r) (enter : ∀ {db request r}, P db → sys.enter db request = some r → Q db r)
    (next : ∀ {db r input db' rest}, P db → Q db r → ok db r input →
      sys.next db r input = some (db', rest) →
      P db' ∧ (∀ r', rest = some r' → Q db' r') ∧ ∀ other, Q db other → Q db' other) :
    P t.db ∧ ∀ r ∈ t.running, Q t.db r := by
  have all := invariant_with (J := fun _ => True) run startDb startRunning trivial enter next
    (fun _ _ _ => trivial) (fun _ _ _ _ _ _ => trivial)
  exact ⟨all.1, all.2.1⟩

/-- What every step keeps of the database and the requests under way together. -/
theorem invariant_in {okIn : State σ ρ → ρ → γ → Prop} (run : Transition.Run sys.step (admitsIn okIn) s t) (start : J s)
    (enter : ∀ {db running request r}, J ⟨db, running⟩ → sys.enter db request = some r → J ⟨db, running ++ [r]⟩)
    (next : ∀ {db running i r input db' rest}, J ⟨db, running⟩ → okIn ⟨db, running⟩ r input →
      running[i]? = some r → sys.next db r input = some (db', rest) →
      J ⟨db', resume running i rest⟩) : J t := by
  apply Transition.Run.invariant run start
  intro x a y before admitted taken
  rcases step_cases taken with ⟨request, r, rfl, entered, rfl⟩ |
    ⟨i, input, r, db, rest, rfl, found, made, rfl⟩
  · exact enter before entered
  · exact next before (admitted r found) found made

end System

end Processes
