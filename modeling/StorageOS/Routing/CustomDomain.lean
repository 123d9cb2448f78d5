import StorageOS.Lib.Separators

/-! The routes of a tenant's own domain: what is served as it is, what is rewritten to a page of the
tenant, what goes to the platform, and what goes to a site of the tenant outside the platform. -/

namespace StorageOS

open scoped MemberByMember

abbrev PathName := List Char

inductive CustomDomainRoute
  | next
  | rewrite (path : PathName)
  | redirectToPlatform (path : PathName)
  deriving DecidableEq

def PASS_PREFIXES : List PathName :=
  ["/portal", "/sign", "/pay", "/review", "/s", "/book", "/g", "/_next", "/api"].map String.toList

def PLATFORM_PREFIXES : List PathName :=
  ["/login", "/register", "/dashboard", "/settings", "/admin", "/forgot-password", "/forgot-password-sent",
    "/reset-password", "/verify-email", "/verify-email-sent", "/invite", "/security", "/widget"].map
      String.toList

def LANDING_SECTION_PATHS : List PathName := ["contacto", "precios"].map String.toList

def BOOK_ALIAS : PathName := "/reservar".toList

def PROMO_PREFIX : PathName := "promo".toList

/-- The names that no facility may have, since another route comes before it. -/
def RESERVED_FACILITY_SLUGS : List PathName :=
  PASS_PREFIXES.map (fun p => p.drop 1) ++ PLATFORM_PREFIXES.map (fun p => p.drop 1) ++
    [BOOK_ALIAS.drop 1, "l".toList, "blog".toList, PROMO_PREFIX] ++ LANDING_SECTION_PATHS ++
    ["aviso-legal", "privacidad", "cookies", "condiciones-contratacion"].map String.toList

/-- `pathname.split('/').filter(Boolean)`. -/
def pathSegments (pathname : PathName) : List PathName :=
  (pathname.splitOn '/').filter fun part => part ≠ []

def bookRewritePath (pathname slug : PathName) : PathName :=
  let rest := pathSegments (pathname.drop BOOK_ALIAS.length)
  let localeAt : Option ℕ :=
    if rest[0]? = some "l".toList then some 0 else if rest[1]? = some "l".toList then some 1 else none
  match localeAt.bind fun i => rest[i + 1]? with
  | some locale => "/book/".toList ++ slug ++ "/l/".toList ++ locale
  | none => "/book/".toList ++ slug

def matchesPrefix (pathname pre : PathName) : Bool :=
  pathname = pre || (pre ++ ['/']).isPrefixOf pathname

def looksLikeFile (pathname : PathName) : Bool :=
  (((pathname.splitOn '/').getLast?).getD []).contains '.'

/-- The rules of a site with the platform's templates, after those that come first. -/
def templateRoute (pathname slug : PathName) : CustomDomainRoute :=
  let parts := pathSegments pathname
  if parts[0]? = some "l".toList && 2 ≤ parts.length then
    let base := "/s/".toList ++ slug ++ "/l/".toList ++ (parts[1]?).getD []
    match parts.drop 2 with
    | [] => .rewrite base
    | [page] => .rewrite (base ++ ['/'] ++ page)
    | [section_, entry] =>
      if section_ = "blog".toList then .rewrite (base ++ "/blog/".toList ++ entry) else .next
    | _ => .next
  else if pathname = ['/'] then .rewrite ("/s/".toList ++ slug)
  else
    match parts with
    | [page] => .rewrite ("/s/".toList ++ slug ++ ['/'] ++ page)
    | [section_, entry] =>
      if section_ = "blog".toList then .rewrite ("/s/".toList ++ slug ++ "/blog/".toList ++ entry) else .next
    | _ => .next

def resolveCustomDomainRoute (pathname slug : PathName) (externalSite : Bool) : CustomDomainRoute :=
  let promoParts := pathSegments pathname
  if "/_next".toList.isPrefixOf pathname || "/api".toList.isPrefixOf pathname then .next
  else if !externalSite && (pathname = "/robots.txt".toList || pathname = "/sitemap.xml".toList) then
    .rewrite ("/tenant-seo/".toList ++ slug ++ ['/'] ++
      (if pathname = "/robots.txt".toList then "robots".toList else "sitemap".toList))
  else if !externalSite && looksLikeFile pathname then .next
  else if PASS_PREFIXES.any fun p => matchesPrefix pathname p then .next
  else if PLATFORM_PREFIXES.any fun p => matchesPrefix pathname p then .redirectToPlatform pathname
  else if matchesPrefix pathname BOOK_ALIAS then .rewrite (bookRewritePath pathname slug)
  else if promoParts[0]? = some PROMO_PREFIX && promoParts.length = 2 then
    .rewrite ("/s/".toList ++ slug ++ ['/'] ++ PROMO_PREFIX ++ ['/'] ++ (promoParts[1]?).getD [])
  else if externalSite then
    .rewrite ("/tenant-site/".toList ++ slug ++ (if pathname = ['/'] then [] else pathname))
  else templateRoute pathname slug

/-! ### Prefixes -/

section

variable {pathname pre slug fac : PathName}

theorem matchesPrefix_iff : matchesPrefix pathname pre = true ↔
    pathname = pre ∨ pre ++ ['/'] <+: pathname := by
  rw [matchesPrefix, Bool.or_eq_true, decide_eq_true_eq, List.isPrefixOf_iff_prefix]

theorem firstSegment_of_matchesPrefix {q : PathName} (one : '/' ∉ q)
    (under : matchesPrefix pathname ('/' :: q) = true) : (pathname.drop 1).takeWhile (· ≠ '/') = q := by
  have whole : ∀ c ∈ q, decide (c ≠ '/') = true := by
    intro c mem
    rw [decide_eq_true_eq]
    rintro rfl
    exact one mem
  rcases matchesPrefix_iff.mp under with rfl | ⟨rest, rfl⟩
  · rw [List.drop_succ_cons, List.drop_zero]
    exact List.takeWhile_eq_self_iff.mpr whole
  · rw [List.cons_append, List.cons_append, List.drop_succ_cons, List.drop_zero, List.append_assoc,
      List.takeWhile_append_of_pos whole]
    simp

theorem prefix_forms : ∀ p ∈ PASS_PREFIXES ++ PLATFORM_PREFIXES ++ [BOOK_ALIAS],
    p = '/' :: p.drop 1 ∧ '/' ∉ p.drop 1 := by decide

theorem prefix_unique {p q : PathName} (hp : p ∈ PASS_PREFIXES ++ PLATFORM_PREFIXES ++ [BOOK_ALIAS])
    (hq : q ∈ PASS_PREFIXES ++ PLATFORM_PREFIXES ++ [BOOK_ALIAS]) (under : matchesPrefix pathname p = true)
    (under' : matchesPrefix pathname q = true) : p = q := by
  obtain ⟨formP, oneP⟩ := prefix_forms p hp
  obtain ⟨formQ, oneQ⟩ := prefix_forms q hq
  rw [formP] at under
  rw [formQ] at under'
  rw [formP, formQ, ← firstSegment_of_matchesPrefix oneP under, ← firstSegment_of_matchesPrefix oneQ under']

theorem prefix_of_matchesPrefix {start : PathName} (short : start.length ≤ pre.length)
    (under : matchesPrefix pathname pre = true) (starts : start <+: pathname) : start <+: pre := by
  rcases matchesPrefix_iff.mp under with rfl | inside
  · exact starts
  · exact List.prefix_of_prefix_length_le starts ((List.prefix_append pre ['/']).trans inside) short

end

/-! ### The routes -/

def underAny (prefixes : List PathName) (pathname : PathName) : Prop :=
  ∃ p ∈ prefixes, matchesPrefix pathname p = true

def facilitySlug (fac : PathName) : Prop :=
  fac ≠ [] ∧ (∀ c ∈ fac, c.isLower = true ∨ c.isDigit = true ∨ c = '-') ∧
    fac.head? ≠ some '-' ∧ fac.getLast? ≠ some '-'

/-- The page of a promotion, `/promo/<name>`. -/
def promoPage (pathname : PathName) : Prop := ∃ name, pathSegments pathname = [PROMO_PREFIX, name]

def goesToExternalSite (route : CustomDomainRoute) : Prop :=
  ∃ path, route = .rewrite path ∧ "/tenant-site/".toList <+: path

section

variable {pathname slug fac : PathName} {externalSite : Bool}

theorem any_matchesPrefix_iff {prefixes : List PathName} :
    (prefixes.any fun p => matchesPrefix pathname p) = true ↔ underAny prefixes pathname := List.any_eq_true

/-- Nothing under a platform prefix comes under an earlier rule but the one for files. -/
theorem platform_rules (under : underAny PLATFORM_PREFIXES pathname) :
    ("/_next".toList.isPrefixOf pathname || "/api".toList.isPrefixOf pathname) = false ∧
      pathname ≠ "/robots.txt".toList ∧ pathname ≠ "/sitemap.xml".toList ∧
      (PASS_PREFIXES.any fun p => matchesPrefix pathname p) = false := by
  obtain ⟨p, mem, inside⟩ := under
  have long : ∀ p ∈ PLATFORM_PREFIXES, 6 ≤ p.length ∧ ¬"/_next".toList <+: p ∧ ¬"/api".toList <+: p := by
    decide
  have apart : ∀ p ∈ PLATFORM_PREFIXES, matchesPrefix "/robots.txt".toList p = false ∧
      matchesPrefix "/sitemap.xml".toList p = false ∧ p ∉ PASS_PREFIXES := by decide
  obtain ⟨six, noNext, noApi⟩ := long p mem
  obtain ⟨noRobots, noSitemap, noPass⟩ := apart p mem
  refine ⟨?_, ?_, ?_, ?_⟩
  · rw [Bool.or_eq_false_iff]
    constructor <;> rw [← Bool.not_eq_true, List.isPrefixOf_iff_prefix] <;> intro starts
    · exact noNext (prefix_of_matchesPrefix six inside starts)
    · exact noApi (prefix_of_matchesPrefix (Nat.le_of_succ_le (Nat.le_of_succ_le six)) inside starts)
  · rintro rfl
    rw [noRobots] at inside
    cases inside
  · rintro rfl
    rw [noSitemap] at inside
    cases inside
  · rw [← Bool.not_eq_true, any_matchesPrefix_iff]
    rintro ⟨q, pass, inside'⟩
    have same : p = q := prefix_unique (by simp [mem]) (by simp [pass]) inside inside'
    exact noPass (same ▸ pass)

theorem resolve_platform (under : underAny PLATFORM_PREFIXES pathname) :
    resolveCustomDomainRoute pathname slug externalSite =
      if externalSite = false ∧ looksLikeFile pathname = true then .next
      else .redirectToPlatform pathname := by
  obtain ⟨internals, robots, sitemap, pass⟩ := platform_rules under
  unfold resolveCustomDomainRoute
  have noFile : (!externalSite && (pathname = "/robots.txt".toList || pathname = "/sitemap.xml".toList)) = false := by
    rw [decide_eq_false robots, decide_eq_false sitemap, Bool.or_false, Bool.and_false]
  rw [internals, noFile, pass, any_matchesPrefix_iff.mpr under]
  simp only [Bool.false_eq_true, ↓reduceIte, Bool.and_eq_true, Bool.not_eq_true']

theorem not_tenantSite {start rest : PathName} (short : start.length ≤ "/tenant-site/".toList.length)
    (other : ¬start <+: "/tenant-site/".toList) : ¬"/tenant-site/".toList <+: start ++ rest :=
  fun site => other (List.prefix_of_prefix_length_le (List.prefix_append start rest) site short)

theorem bookRewritePath_starts (pathname slug : PathName) :
    ∃ rest, bookRewritePath pathname slug = "/book/".toList ++ rest := by
  unfold bookRewritePath
  dsimp only
  split
  · exact ⟨_, by rw [List.append_assoc, List.append_assoc]⟩
  · exact ⟨_, rfl⟩

theorem resolve_pass (under : underAny (BOOK_ALIAS :: PASS_PREFIXES) pathname) :
    ¬goesToExternalSite (resolveCustomDomainRoute pathname slug externalSite) := by
  have some_ : underAny PASS_PREFIXES pathname ∨ matchesPrefix pathname BOOK_ALIAS = true := by
    obtain ⟨p, mem, inside⟩ := under
    rcases List.mem_cons.mp mem with rfl | mem
    · exact .inr inside
    · exact .inl ⟨p, mem, inside⟩
  rintro ⟨path, route, site⟩
  unfold resolveCustomDomainRoute at route
  split at route
  · cases route
  split at route
  · cases route
    rw [List.append_assoc, List.append_assoc] at site
    exact not_tenantSite (by decide) (by decide) site
  split at route
  · cases route
  split at route
  · cases route
  rename_i pass
  split at route
  · cases route
  split at route
  · cases route
    obtain ⟨rest, book⟩ := bookRewritePath_starts pathname slug
    rw [book] at site
    exact not_tenantSite (by decide) (by decide) site
  · rename_i book
    rcases some_ with inside | inside
    · exact pass (any_matchesPrefix_iff.mpr inside)
    · exact book inside

theorem other_rules (other : ¬underAny (BOOK_ALIAS :: (PASS_PREFIXES ++ PLATFORM_PREFIXES)) pathname) :
    (¬(PASS_PREFIXES.any fun p => matchesPrefix pathname p) = true) ∧
      (¬(PLATFORM_PREFIXES.any fun p => matchesPrefix pathname p) = true) ∧
      ¬matchesPrefix pathname BOOK_ALIAS = true := by
  refine ⟨?_, ?_, fun inside => other ⟨_, List.mem_cons_self, inside⟩⟩ <;> rw [any_matchesPrefix_iff] <;>
    rintro ⟨p, mem, inside⟩
  · exact other ⟨p, by simp [mem], inside⟩
  · exact other ⟨p, by simp [mem], inside⟩

theorem resolve_external (other : ¬underAny (BOOK_ALIAS :: (PASS_PREFIXES ++ PLATFORM_PREFIXES)) pathname)
    (promo : ¬promoPage pathname) (internals : ¬"/_next".toList <+: pathname)
    (api : ¬"/api".toList <+: pathname) : resolveCustomDomainRoute pathname slug true =
      .rewrite ("/tenant-site/".toList ++ slug ++ (if pathname = ['/'] then [] else pathname)) := by
  have start : ("/_next".toList.isPrefixOf pathname || "/api".toList.isPrefixOf pathname) = false := by
    rw [Bool.or_eq_false_iff, ← Bool.not_eq_true, ← Bool.not_eq_true, List.isPrefixOf_iff_prefix,
      List.isPrefixOf_iff_prefix]
    exact ⟨internals, api⟩
  obtain ⟨pass, platform, book⟩ := other_rules other
  have page : ¬((pathSegments pathname)[0]? = some PROMO_PREFIX && (pathSegments pathname).length = 2) = true := by
    rw [Bool.and_eq_true, decide_eq_true_eq, decide_eq_true_eq]
    rintro ⟨first, two⟩
    obtain ⟨a, b, parts⟩ := List.length_eq_two.mp two
    rw [parts, List.getElem?_cons_zero, Option.some.injEq] at first
    exact promo ⟨b, by rw [parts, first]⟩
  unfold resolveCustomDomainRoute
  dsimp only
  rw [start, if_neg Bool.false_ne_true, Bool.not_true, Bool.false_and, if_neg Bool.false_ne_true,
    Bool.false_and, if_neg Bool.false_ne_true, if_neg pass, if_neg platform, if_neg book, if_neg page,
    if_pos rfl]

theorem pathSegments_one (one : '/' ∉ fac) (some_ : fac ≠ []) : pathSegments ('/' :: fac) = [fac] := by
  have split : ('/' :: fac).splitOn '/' = [[], fac] := by
    rw [List.splitOn_cons_eq_if_modifyHead, if_pos (beq_self_eq_true _), List.splitOn_eq_singleton one]
  rw [pathSegments, split]
  simp [some_]

theorem facilitySlug.without (name : facilitySlug fac) {c : Char} (lower : c.isLower = false)
    (digit : c.isDigit = false) (hyphen : c ≠ '-') : c ∉ fac := by
  intro mem
  rcases name.2.1 c mem with h | h | h
  · rw [lower] at h
    cases h
  · rw [digit] at h
    cases h
  · exact hyphen h

theorem not_underAny_of_free (one : '/' ∉ fac) (free : fac ∉ RESERVED_FACILITY_SLUGS) :
    ¬underAny (BOOK_ALIAS :: (PASS_PREFIXES ++ PLATFORM_PREFIXES)) ('/' :: fac) := by
  rintro ⟨p, mem, inside⟩
  have known : p ∈ PASS_PREFIXES ++ PLATFORM_PREFIXES ++ [BOOK_ALIAS] := by
    rw [List.mem_cons] at mem
    rw [List.mem_append, List.mem_singleton]
    exact mem.symm
  obtain ⟨form, single⟩ := prefix_forms p known
  rw [form] at inside
  have same := firstSegment_of_matchesPrefix single inside
  have reserved : ∀ p ∈ PASS_PREFIXES ++ PLATFORM_PREFIXES ++ [BOOK_ALIAS],
      p.drop 1 ∈ RESERVED_FACILITY_SLUGS := by decide
  have whole : fac.takeWhile (· ≠ '/') = fac := by
    refine List.takeWhile_eq_self_iff.mpr fun c mem => ?_
    rw [decide_eq_true_eq]
    rintro rfl
    exact one mem
  rw [List.drop_succ_cons, List.drop_zero, whole] at same
  exact free (same ▸ reserved p known)

theorem resolve_facility (name : facilitySlug fac) (free : fac ∉ RESERVED_FACILITY_SLUGS)
    (api : ¬"api".toList <+: fac) : resolveCustomDomainRoute ('/' :: fac) slug false =
      .rewrite ("/s/".toList ++ slug ++ ['/'] ++ fac) := by
  have one : '/' ∉ fac := name.without (by decide) (by decide) (by decide)
  have dot : '.' ∉ fac := name.without (by decide) (by decide) (by decide)
  have underscore : '_' ∉ fac := name.without (by decide) (by decide) (by decide)
  have some_ := name.1
  have split : ('/' :: fac).splitOn '/' = [[], fac] := by
    rw [List.splitOn_cons_eq_if_modifyHead, if_pos (beq_self_eq_true _), List.splitOn_eq_singleton one]
  have parts := pathSegments_one one some_
  have start : ("/_next".toList.isPrefixOf ('/' :: fac) || "/api".toList.isPrefixOf ('/' :: fac)) = false := by
    rw [Bool.or_eq_false_iff, ← Bool.not_eq_true, ← Bool.not_eq_true, List.isPrefixOf_iff_prefix,
      List.isPrefixOf_iff_prefix]
    constructor
    · intro starts
      have inside := List.cons_prefix_cons.mp (starts : '/' :: "_next".toList <+: '/' :: fac)
      exact underscore (inside.2.subset (by decide))
    · intro starts
      exact api (List.cons_prefix_cons.mp (starts : '/' :: "api".toList <+: '/' :: fac)).2
  have file : looksLikeFile ('/' :: fac) = false := by
    rw [looksLikeFile, split, ← Bool.not_eq_true, List.contains_iff_mem]
    exact dot
  have own : ∀ file_ : PathName, '.' ∈ file_ → '/' :: fac ≠ file_ := by
    rintro _ mem rfl
    rcases List.mem_cons.mp mem with h | h
    · cases h
    · exact dot h
  obtain ⟨pass, platform, book⟩ := other_rules (not_underAny_of_free one free)
  have root : ('/' :: fac) ≠ ['/'] := by
    intro same
    cases same
    exact some_ rfl
  unfold resolveCustomDomainRoute templateRoute
  dsimp only
  rw [start, if_neg Bool.false_ne_true, decide_eq_false (own "/robots.txt".toList (by decide)),
    decide_eq_false (own "/sitemap.xml".toList (by decide)), Bool.or_false, Bool.and_false,
    if_neg Bool.false_ne_true, file, Bool.and_false, if_neg Bool.false_ne_true, if_neg pass,
    if_neg platform, if_neg book, parts]
  simp [root]

end

/-- On a tenant's domain each facility has its page, what is the platform's goes to the platform, and
only the rest goes to a site of the tenant's own. -/
theorem custom_domain_routes (pathname slug fac : PathName) :
    (facilitySlug fac → fac ∉ RESERVED_FACILITY_SLUGS → ¬"api".toList <+: fac →
      resolveCustomDomainRoute ('/' :: fac) slug false = .rewrite ("/s/".toList ++ slug ++ ['/'] ++ fac)) ∧
    (∀ externalSite, underAny PLATFORM_PREFIXES pathname →
      resolveCustomDomainRoute pathname slug externalSite =
        if externalSite = false ∧ looksLikeFile pathname = true then .next
        else .redirectToPlatform pathname) ∧
    (∀ externalSite, underAny (BOOK_ALIAS :: PASS_PREFIXES) pathname →
      ¬goesToExternalSite (resolveCustomDomainRoute pathname slug externalSite)) ∧
    (¬underAny (BOOK_ALIAS :: (PASS_PREFIXES ++ PLATFORM_PREFIXES)) pathname → ¬promoPage pathname →
      ¬"/_next".toList <+: pathname → ¬"/api".toList <+: pathname →
        resolveCustomDomainRoute pathname slug true =
          .rewrite ("/tenant-site/".toList ++ slug ++ (if pathname = ['/'] then [] else pathname))) :=
  ⟨resolve_facility, fun _ => resolve_platform, fun _ => resolve_pass, resolve_external⟩

theorem custom_domain_routes_local :
    resolveCustomDomainRoute "/local-norte".toList "garcia".toList false = .rewrite "/s/garcia/local-norte".toList ∧
      resolveCustomDomainRoute "/css/style.css".toList "garcia".toList true =
        .rewrite "/tenant-site/garcia/css/style.css".toList := by
  obtain ⟨facility, -, -, -⟩ := custom_domain_routes [] "garcia".toList "local-norte".toList
  obtain ⟨-, -, -, external⟩ := custom_domain_routes "/css/style.css".toList "garcia".toList []
  have named : facilitySlug "local-norte".toList := ⟨by decide +kernel, by decide +kernel, by decide +kernel, by decide +kernel⟩
  refine ⟨facility named (by decide +kernel) (by decide +kernel), external ?_ ?_ ?_ ?_⟩
  · rintro ⟨p, mem, inside⟩
    have none_ : ∀ p ∈ BOOK_ALIAS :: (PASS_PREFIXES ++ PLATFORM_PREFIXES),
        matchesPrefix "/css/style.css".toList p = false := by decide
    rw [none_ p mem] at inside
    cases inside
  · rintro ⟨name, parts⟩
    have other : (pathSegments "/css/style.css".toList).head? = some "css".toList := by decide
    rw [parts, List.head?_cons] at other
    exact absurd other (by decide)
  · decide
  · decide

/-- The page of a promotion is the platform's, and a file under a prefix of the platform passes. -/
theorem custom_domain_routes_differ :
    (¬∀ pathname slug, ¬underAny (BOOK_ALIAS :: (PASS_PREFIXES ++ PLATFORM_PREFIXES)) pathname →
      resolveCustomDomainRoute pathname slug true =
        .rewrite ("/tenant-site/".toList ++ slug ++ (if pathname = ['/'] then [] else pathname))) ∧
    ¬∀ pathname slug externalSite, underAny PLATFORM_PREFIXES pathname →
      resolveCustomDomainRoute pathname slug externalSite = .redirectToPlatform pathname := by
  constructor
  · intro all
    have none_ : ∀ p ∈ BOOK_ALIAS :: (PASS_PREFIXES ++ PLATFORM_PREFIXES),
        matchesPrefix "/promo/verano".toList p = false := by decide
    have other : ¬underAny (BOOK_ALIAS :: (PASS_PREFIXES ++ PLATFORM_PREFIXES)) "/promo/verano".toList := by
      rintro ⟨p, mem, inside⟩
      rw [none_ p mem] at inside
      cases inside
    exact absurd (all "/promo/verano".toList "garcia".toList other) (by decide)
  · intro all
    have under : underAny PLATFORM_PREFIXES "/dashboard/logo.png".toList :=
      ⟨"/dashboard".toList, by decide, by decide⟩
    exact absurd (all "/dashboard/logo.png".toList "garcia".toList false under) (by decide)

end StorageOS
