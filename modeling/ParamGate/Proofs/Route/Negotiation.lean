import Mathlib.Data.List.Induction
import ParamGate.Proofs.Outcome
import ParamGate.Route.Basic

/-!
# How a version is negotiated

A route answers a request if its template matches the path, the method is one of its own, and the
version that the request asks for, if any, is its own, if it has one. `Route.matchRequest_result`
says what matching one route gives in these terms, and when it fails: an integer in the path has too
many digits, or the header that names the version cannot be looked up. From this `Route.dispatch` is
read as a search for the first route that qualifies (`dispatch_eq_route_iff`). A request that every
route misses is tried once more, with its path up to the slashes at the end (`Twin`).

A framework keeps what was negotiated in the scope of the request: every route that matches offers
an addition to it, and only that of the route taken is made. `Route.negotiate` is the search with
this scope, and `negotiate_of_dispatch` shows that it goes where `dispatch` goes and that the
version in the scope is that of the route, whatever the routes before it offered.
-/

namespace ParamGate.Route

open Text

/-! ## When a route answers a request -/

section Answers

variable (s : Settings) (q : Http.Request) (r : Route)

/-- The path matches the template, with these parameters. -/
def Fits (params : Table Value) : Prop := r.template.matchPath? q.path = .ok (some params)

/-- The path matches the template, but an integer in it has too many digits. -/
def Overflows : Prop :=
  ∃ found name cs, matchFrom r.template q.path.toList = some found ∧
    (name, .integer, cs) ∈ found ∧ maxDigits < (takeDigits asciiDigit? cs).1.length

/-- The name of the header that gives the version cannot be written in Latin-1. -/
def Settings.Unwritable (s : Settings) : Prop :=
  ∃ problem, latin1Problem? (lower s.versionHeader) = some problem

/-- The route has no version, or the request asks for none or for that of the route. -/
inductive Compatible : Prop
  | unversioned : r.version = .null → Compatible
  | unasked : requestedVersion s q.headers = .ok none → Compatible
  | asked {v : String} : requestedVersion s q.headers = .ok (some v) →
      (Value.string v).equal r.version = true → Compatible

/-- The route answers the request, with these parameters of the path. -/
structure Qualifies (params : Table Value) : Prop where
  fits : r.Fits q params
  method : q.method ∈ r.methods
  compatible : r.Compatible s q

/-- Matching the route is a fault. -/
inductive Breaks : Prop
  | digits : r.Overflows q → Breaks
  | header {params : Table Value} : r.Fits q params → r.version ≠ .null →
      Settings.Unwritable s → Breaks

/-- The request is not stopped at the route: the route neither answers it nor is a fault. -/
structure Passes : Prop where
  unqualified : ∀ params, ¬ r.Qualifies s q params
  unbroken : ¬ r.Breaks s q

/-- The route has the path and a version that the request may get. -/
def HasPath : Prop := (∃ params, r.Fits q params) ∧ r.Compatible s q

/-- The route knows nothing of the request. -/
structure Misses : Prop where
  pathless : ¬ r.HasPath s q
  unbroken : ¬ r.Breaks s q

/-- What matching a route gives. -/
inductive MatchesAs : Except Fault MatchResult → Prop
  | full {params : Table Value} : r.Qualifies s q params → MatchesAs (.ok (.full params))
  | path {params : Table Value} : r.Fits q params → q.method ∉ r.methods → r.Compatible s q →
      MatchesAs (.ok (.path params))
  | none : ¬ r.Breaks s q → ¬ r.HasPath s q → MatchesAs (.ok .none)
  | fault {fault : Fault} : r.Breaks s q → MatchesAs (.error fault)

end Answers

/-- Every route before this one is skipped. -/
def First (skips : Route → Prop) (routes : List Route) (r : Route) : Prop :=
  ∃ before after, routes = before ++ r :: after ∧ ∀ r' ∈ before, skips r'

/-- The path that a path may stand for: one more slash at its end, or none of those there. -/
inductive Twin (path : String) : String → Prop
  | slashed : path.toList.getLast? ≠ some '/' → Twin path (path ++ "/")
  | bare {front : List Char} {n : Nat} : path ≠ "/" →
      path.toList = front ++ List.replicate (n + 1) '/' → front.getLast? ≠ some '/' →
      Twin path (String.ofList front)

/-! ## Faults -/

theorem value_fault_iff {k : Converter} {cs : List Char} :
    (∃ fault, k.value cs = .error fault) ↔
      k = .integer ∧ maxDigits < (takeDigits asciiDigit? cs).1.length := by
  cases k with
  | integer =>
      rw [Converter.value]
      by_cases hlong : (takeDigits asciiDigit? cs).1.length ≤ maxDigits
      · simp [hlong]
      · simp [hlong, Nat.lt_of_not_le hlong]
  | _ => simp [Converter.value]

theorem valuesOf_fault_iff {found : List (String × Converter × List Char)} :
    (∃ fault, valuesOf found = .error fault) ↔
      ∃ name cs, (name, Converter.integer, cs) ∈ found ∧
        maxDigits < (takeDigits asciiDigit? cs).1.length := by
  induction found with
  | nil => simp [valuesOf]
  | cons entry found ih =>
      obtain ⟨name, k, cs⟩ := entry
      rw [valuesOf]
      -- the first text that has no value decides, and behind it nothing is looked at
      cases hv : k.value cs with
      | error fault =>
          obtain ⟨rfl, hlong⟩ := value_fault_iff.1 ⟨fault, hv⟩
          simp only [error_bind, Except.error.injEq, exists_eq', true_iff]
          exact ⟨name, cs, List.mem_cons_self, hlong⟩
      | ok v =>
          have hshort : ¬ (k = .integer ∧
              maxDigits < (takeDigits asciiDigit? cs).1.length) := by
            intro h
            obtain ⟨fault, hf⟩ := value_fault_iff.2 h
            simp [hv] at hf
          have hrest : (∃ fault, (valuesOf found >>= fun others =>
              (.ok ((.string name, v) :: others) : Except Fault (Table Value))) = .error fault) ↔
              ∃ fault, valuesOf found = .error fault := by
            cases valuesOf found with
            | error fault => simp
            | ok others => simp
          rw [ok_bind, hrest, ih]
          constructor
          · rintro ⟨n, ds, hm, hlong⟩
            exact ⟨n, ds, List.mem_cons_of_mem _ hm, hlong⟩
          · rintro ⟨n, ds, hm, hlong⟩
            rcases List.mem_cons.1 hm with he | hm
            · obtain ⟨-, hk, rfl⟩ := by simpa using he
              exact absurd ⟨hk.symm, hlong⟩ hshort
            · exact ⟨n, ds, hm, hlong⟩

theorem matchPath_fault_iff {r : Route} {q : Http.Request} :
    (∃ fault, r.template.matchPath? q.path = .error fault) ↔ r.Overflows q := by
  unfold Overflows Template.matchPath?
  cases matchFrom r.template q.path.toList with
  | none => simp
  | some found =>
      simp only [map_eq_error_iff, valuesOf_fault_iff, Option.some.injEq, exists_and_left,
        exists_eq_left']

theorem requestedVersion_fault_iff {s : Settings} (hs : Http.Headers) :
    (∃ fault, requestedVersion s hs = .error fault) ↔ Settings.Unwritable s := by
  unfold requestedVersion Settings.Unwritable
  simp only
  cases latin1Problem? (lower s.versionHeader) with
  | some problem => simp
  | none => cases hs.first? (lower s.versionHeader) <;> simp

/-! ## Matching one route -/

section Match

variable {s : Settings} {q : Http.Request} {r : Route} {params : Table Value}

/-- Matching is no fault if the path can be read and the versions can be compared, as far as that is
needed. -/
theorem not_breaks {found : Option (Table Value)}
    (hp : r.template.matchPath? q.path = .ok found)
    (hv : found = none ∨ r.version = .null ∨ ∃ wanted, requestedVersion s q.headers = .ok wanted) :
    ¬ r.Breaks s q := by
  intro hb
  cases hb with
  | digits ho =>
      obtain ⟨fault, hf⟩ := matchPath_fault_iff.2 ho
      simp [hp] at hf
  | header hf hne hu =>
      obtain ⟨fault, hw⟩ := (requestedVersion_fault_iff q.headers).2 hu
      rw [Fits, hp] at hf
      rcases hv with hnone | hnull | ⟨wanted, hwanted⟩
      · simp [hnone] at hf
      · exact hne hnull
      · simp [hw] at hwanted

theorem not_breaks_of_compatible (h : r.Fits q params) (hc : r.Compatible s q) :
    ¬ r.Breaks s q := by
  refine not_breaks h (Or.inr ?_)
  cases hc with
  | unversioned hn => exact Or.inl hn
  | unasked hw => exact Or.inr ⟨_, hw⟩
  | asked hw _ => exact Or.inr ⟨_, hw⟩

/-- A request for a version may get the routes of that version and those without one. -/
theorem compatible_iff_of_asked {v : String}
    (hw : requestedVersion s q.headers = .ok (some v)) :
    r.Compatible s q ↔ r.version = .null ∨ (Value.string v).equal r.version = true := by
  constructor
  · intro hc
    cases hc with
    | unversioned hn => exact Or.inl hn
    | unasked hnone => simp [hw] at hnone
    | asked hsome hequal =>
        rw [hw] at hsome
        rw [← Option.some.inj (Except.ok.inj hsome)] at hequal
        exact Or.inr hequal
  · rintro (hn | hequal)
    · exact .unversioned hn
    · exact .asked hw hequal

/-- How far a route matches whose template has the path. -/
def matchedBy (r : Route) (q : Http.Request) (params : Table Value) : MatchResult :=
  if r.methods.contains q.method then .full params else .path params

theorem matchRequest_of_fits (h : r.Fits q params) :
    r.matchRequest s q =
      if r.version.isNull then .ok (r.matchedBy q params)
      else (requestedVersion s q.headers).map fun wanted =>
        if r.admits wanted then r.matchedBy q params else .none := by
  have hu : r.matchUnversioned q = .ok (r.matchedBy q params) := by
    rw [matchUnversioned, h]
    rfl
  rw [matchRequest, hu, ok_bind]
  unfold matchedBy
  split
  · rename_i hfound
    split at hfound <;> simp at hfound
  · rfl

theorem matchesAs_of_compatible (h : r.Fits q params) (hc : r.Compatible s q) :
    MatchesAs s q r (.ok (r.matchedBy q params)) := by
  unfold matchedBy
  split
  · rename_i hm
    exact .full ⟨h, by simpa using hm, hc⟩
  · rename_i hm
    exact .path h (by simpa using hm) hc

/-- What matching a route gives is what the path, the method and the versions say. -/
theorem matchRequest_result (s : Settings) (q : Http.Request) (r : Route) :
    MatchesAs s q r (r.matchRequest s q) := by
  cases hp : r.template.matchPath? q.path with
  | error fault =>
      have hresult : r.matchRequest s q = .error fault := by
        rw [matchRequest, matchUnversioned, hp]
        rfl
      rw [hresult]
      exact .fault (.digits (matchPath_fault_iff.1 ⟨fault, hp⟩))
  | ok found =>
      cases found with
      | none =>
          have hresult : r.matchRequest s q = .ok .none := by
            rw [matchRequest, matchUnversioned, hp]
            rfl
          rw [hresult]
          refine .none (not_breaks hp (Or.inl rfl)) ?_
          rintro ⟨⟨params, hf⟩, -⟩
          rw [Fits, hp] at hf
          simp at hf
      | some params =>
          rw [matchRequest_of_fits hp]
          by_cases hn : r.version = .null
          · rw [if_pos (Value.isNull_iff.2 hn)]
            exact matchesAs_of_compatible hp (.unversioned hn)
          rw [if_neg (mt Value.isNull_iff.1 hn)]
          -- a route with a version is compared with what the header asks for
          cases hw : requestedVersion s q.headers with
          | error fault =>
              exact .fault (.header hp hn ((requestedVersion_fault_iff _).1 ⟨fault, hw⟩))
          | ok wanted =>
              cases wanted with
              | none => exact matchesAs_of_compatible hp (.unasked hw)
              | some v =>
                  rw [map_ok, admits]
                  split
                  · rename_i he
                    exact matchesAs_of_compatible hp (.asked hw he)
                  · rename_i he
                    refine .none (not_breaks hp (Or.inr (Or.inr ⟨_, hw⟩))) ?_
                    rintro ⟨-, hc⟩
                    exact ((compatible_iff_of_asked hw).1 hc).elim hn he

theorem matchRequest_of_compatible (h : r.Fits q params) (hc : r.Compatible s q) :
    r.matchRequest s q = .ok (r.matchedBy q params) := by
  rw [matchRequest_of_fits h]
  by_cases hn : r.version = .null
  · rw [if_pos (Value.isNull_iff.2 hn)]
  rw [if_neg (mt Value.isNull_iff.1 hn)]
  cases hc with
  | unversioned hnull => exact absurd hnull hn
  | unasked hw =>
      rw [hw]
      rfl
  | asked hw he => rw [hw, map_ok, admits, if_pos he]

theorem matchRequest_of_breaks (h : r.Breaks s q) : ∃ fault, r.matchRequest s q = .error fault := by
  have hm := matchRequest_result s q r
  generalize r.matchRequest s q = outcome at hm ⊢
  cases hm with
  | full hq => exact absurd h (not_breaks_of_compatible hq.fits hq.compatible)
  | path hf _ hc => exact absurd h (not_breaks_of_compatible hf hc)
  | none hb _ => exact absurd h hb
  | @fault f _ => exact ⟨f, rfl⟩

theorem matchRequest_of_misses (h : r.Misses s q) : r.matchRequest s q = .ok .none := by
  have hm := matchRequest_result s q r
  generalize r.matchRequest s q = outcome at hm ⊢
  cases hm with
  | full hq => exact absurd ⟨⟨_, hq.fits⟩, hq.compatible⟩ h.pathless
  | path hf _ hc => exact absurd ⟨⟨_, hf⟩, hc⟩ h.pathless
  | none _ _ => rfl
  | fault hb => exact absurd hb h.unbroken

end Match

/-! ## The search for a route -/

section Search

variable {s : Settings} {q : Http.Request} {r : Route} {params : Table Value}
  {before after routes : List Route}

theorem dispatchFrom_of_qualifies (h : r.Qualifies s q params) (seen : Bool) :
    dispatchFrom s q seen (r :: after) = .ok (.route r params) := by
  have hmethod : r.methods.contains q.method = true := by simpa using h.method
  rw [dispatchFrom, matchRequest_of_compatible h.fits h.compatible, matchedBy, if_pos hmethod]
  rfl

theorem dispatchFrom_of_breaks (h : r.Breaks s q) (seen : Bool) (after : List Route) :
    ∃ fault, r.matchRequest s q = .error fault ∧
      dispatchFrom s q seen (r :: after) = .error fault := by
  obtain ⟨fault, hm⟩ := matchRequest_of_breaks h
  refine ⟨fault, hm, ?_⟩
  rw [dispatchFrom, hm]
  rfl

/-- A route that does not stop the request is only remembered, if it has the path. -/
theorem dispatchFrom_of_passes (h : r.Passes s q) (seen : Bool) (after : List Route) :
    ∃ seen', dispatchFrom s q seen (r :: after) = dispatchFrom s q seen' after ∧
      (seen' = true ↔ seen = true ∨ r.HasPath s q) := by
  have hm := matchRequest_result s q r
  rw [dispatchFrom]
  generalize r.matchRequest s q = outcome at hm ⊢
  cases hm with
  | full hq => exact absurd hq (h.unqualified _)
  | path hf _ hc => exact ⟨true, rfl, by simp [HasPath, hc, Exists.intro _ hf]⟩
  | none _ hpath => exact ⟨seen, rfl, by simp [hpath]⟩
  | fault hb => exact absurd hb h.unbroken

theorem dispatchFrom_append (h : ∀ r ∈ before, r.Passes s q) (seen : Bool)
    (after : List Route) :
    ∃ seen', dispatchFrom s q seen (before ++ after) = dispatchFrom s q seen' after ∧
      (seen' = true ↔ seen = true ∨ ∃ r ∈ before, r.HasPath s q) := by
  induction before generalizing seen with
  | nil => exact ⟨seen, rfl, by simp⟩
  | cons r before ih =>
      obtain ⟨seen₁, hfirst, hseen₁⟩ :=
        dispatchFrom_of_passes (h r List.mem_cons_self) seen (before ++ after)
      obtain ⟨seen₂, hrest, hseen₂⟩ := ih (fun r' hr => h r' (List.mem_cons_of_mem r hr)) seen₁
      refine ⟨seen₂, hfirst.trans hrest, ?_⟩
      rw [hseen₂, hseen₁, or_assoc]
      simp

/-- Some first route is not skipped, or all are. -/
theorem first_or_all (skips : Route → Prop) (routes : List Route) :
    (∃ r, First skips routes r ∧ ¬ skips r) ∨ ∀ r ∈ routes, skips r := by
  induction routes with
  | nil => exact Or.inr (by simp)
  | cons r routes ih =>
      by_cases hr : skips r
      · rcases ih with ⟨r', ⟨before, after, rfl, hbefore⟩, hr'⟩ | hall
        · exact Or.inl ⟨r', ⟨r :: before, after, rfl, List.forall_mem_cons.2 ⟨hr, hbefore⟩⟩, hr'⟩
        · exact Or.inr (List.forall_mem_cons.2 ⟨hr, hall⟩)
      · exact Or.inl ⟨r, ⟨[], routes, rfl, by simp⟩, hr⟩

theorem not_passes_iff :
    ¬ r.Passes s q ↔ (∃ params, r.Qualifies s q params) ∨ r.Breaks s q := by
  constructor
  · intro h
    by_contra hr
    exact h ⟨fun params hq => hr (Or.inl ⟨params, hq⟩), fun hb => hr (Or.inr hb)⟩
  · rintro (⟨params, hq⟩ | hb) h
    · exact h.unqualified params hq
    · exact h.unbroken hb

/-- Some first route stops the request, or none does. -/
theorem first_stops (s : Settings) (q : Http.Request) (routes : List Route) :
    (∃ r, First (Passes s q) routes r ∧ ((∃ params, r.Qualifies s q params) ∨ r.Breaks s q)) ∨
      ∀ r ∈ routes, r.Passes s q := by
  have h := first_or_all (Passes s q) routes
  simpa only [not_passes_iff] using h

/-- The first route that stops the request takes it if it qualifies. -/
theorem dispatch_of_qualifies (hfirst : First (Passes s q) routes r)
    (h : r.Qualifies s q params) : dispatch s q routes = .ok (.route r params) := by
  obtain ⟨before, after, rfl, hbefore⟩ := hfirst
  obtain ⟨seen, hsearch, -⟩ := dispatchFrom_append hbefore false (r :: after)
  rw [dispatch, hsearch, dispatchFrom_of_qualifies h seen]
  rfl

/-- If matching it is a fault, the search ends with that. -/
theorem dispatch_of_breaks (hfirst : First (Passes s q) routes r) (h : r.Breaks s q) :
    ∃ fault, r.matchRequest s q = .error fault ∧ dispatch s q routes = .error fault := by
  obtain ⟨before, after, rfl, hbefore⟩ := hfirst
  obtain ⟨seen, hsearch, -⟩ := dispatchFrom_append hbefore false (r :: after)
  obtain ⟨fault, hm, hd⟩ := dispatchFrom_of_breaks h seen after
  refine ⟨fault, hm, ?_⟩
  rw [dispatch, hsearch, hd]
  rfl

theorem dispatchFrom_of_passes_all (h : ∀ r ∈ routes, r.Passes s q) :
    ∃ seen : Bool, dispatchFrom s q false routes = .ok (if seen then .wrongMethod else .unknown) ∧
      (seen = true ↔ ∃ r ∈ routes, r.HasPath s q) := by
  obtain ⟨seen, hsearch, hseen⟩ := dispatchFrom_append h false []
  rw [List.append_nil] at hsearch
  exact ⟨seen, hsearch, by simpa using hseen⟩

/-- Where no route stops the request, one that has the path tells that the method is wrong. -/
theorem dispatch_of_hasPath (h : ∀ r ∈ routes, r.Passes s q) (hr : r ∈ routes)
    (hpath : r.HasPath s q) : dispatch s q routes = .ok .wrongMethod := by
  obtain ⟨seen, hsearch, hseen⟩ := dispatchFrom_of_passes_all h
  rw [dispatch, hsearch, hseen.2 ⟨r, hr, hpath⟩]
  rfl

theorem Misses.passes (h : r.Misses s q) : r.Passes s q :=
  ⟨fun params hq => h.pathless ⟨⟨params, hq.fits⟩, hq.compatible⟩, h.unbroken⟩

/-- A request that every route misses may be sent elsewhere. -/
theorem dispatch_of_misses (h : ∀ r ∈ routes, r.Misses s q) :
    dispatch s q routes = redirect s q routes := by
  obtain ⟨seen, hsearch, hseen⟩ := dispatchFrom_of_passes_all fun r hr => (h r hr).passes
  -- no route was remembered, since none has the path
  have hunseen : seen = false := by
    rw [Bool.eq_false_iff]
    intro htrue
    obtain ⟨r, hr, hpath⟩ := hseen.1 htrue
    exact (h r hr).pathless hpath
  rw [dispatch, hsearch, hunseen]
  rfl

/-- A request that is sent elsewhere goes to no route. -/
theorem redirect_ne_route : redirect s q routes ≠ .ok (.route r params) := by
  intro h
  unfold redirect at h
  split at h
  · simp at h
  · obtain ⟨found, -, h⟩ := map_eq_ok_iff.1 h
    cases found with
    | true => simp at h
    | false => simp at h

/-- A request goes to the first route that qualifies, if matching none before it is a fault. -/
theorem dispatch_eq_route_iff :
    dispatch s q routes = .ok (.route r params) ↔
      First (Passes s q) routes r ∧ r.Qualifies s q params := by
  constructor
  · intro h
    rcases first_stops s q routes with ⟨r', hfirst, ⟨params', hq⟩ | hb⟩ | hall
    · rw [dispatch_of_qualifies hfirst hq] at h
      obtain ⟨rfl, rfl⟩ := Destination.route.inj (Except.ok.inj h)
      exact ⟨hfirst, hq⟩
    · obtain ⟨fault, -, hd⟩ := dispatch_of_breaks hfirst hb
      simp [hd] at h
    · obtain ⟨seen, hsearch, -⟩ := dispatchFrom_of_passes_all hall
      rw [dispatch, hsearch] at h
      cases seen with
      | true => simp at h
      | false => exact absurd h redirect_ne_route
  · rintro ⟨hfirst, hq⟩
    exact dispatch_of_qualifies hfirst hq

/-- A request goes to one of the routes. -/
theorem mem_of_dispatch (h : dispatch s q routes = .ok (.route r params)) : r ∈ routes := by
  obtain ⟨⟨before, after, rfl, -⟩, -⟩ := dispatch_eq_route_iff.1 h
  exact List.mem_append_right before List.mem_cons_self

end Search

/-! ## Requests that every route misses -/

section Redirect

variable {s : Settings} {q : Http.Request} {r : Route} {path : String}
  {before after routes : List Route}

theorem exists_slashes {cs : List Char} (h : cs.getLast? = some '/') :
    ∃ front n, cs = front ++ List.replicate (n + 1) '/' ∧ front.getLast? ≠ some '/' := by
  induction cs using List.reverseRecOn with
  | nil => simp at h
  | append_singleton cs c ih =>
      obtain rfl : c = '/' := by simpa using h
      -- the slashes in front of the last one are those of the rest
      by_cases hcs : cs.getLast? = some '/'
      · obtain ⟨front, n, rfl, hfront⟩ := ih hcs
        refine ⟨front, n + 1, ?_, hfront⟩
        rw [List.append_assoc, ← List.replicate_succ']
      · exact ⟨cs, 0, rfl, hcs⟩

theorem dropWhile_reverse {front : List Char} (h : front.getLast? ≠ some '/') :
    front.reverse.dropWhile (· == '/') = front.reverse := by
  rw [← List.head?_reverse] at h
  cases hr : front.reverse with
  | nil => rfl
  | cons c cs =>
      have hc : (c == '/') = false := by simpa [hr] using h
      rw [List.dropWhile_cons, hc]
      rfl

theorem twin?_of_slashed (h : path.toList.getLast? ≠ some '/') :
    twin? path = some (path ++ "/") := by
  have hne : path ≠ "/" := by
    rintro rfl
    exact h rfl
  rw [twin?, if_neg hne]
  split
  · rename_i hr
    rw [← List.head?_reverse, hr] at h
    exact absurd rfl h
  · rfl

theorem twin?_of_bare {front : List Char} {n : Nat} (hne : path ≠ "/")
    (hpath : path.toList = front ++ List.replicate (n + 1) '/')
    (hfront : front.getLast? ≠ some '/') : twin? path = some (String.ofList front) := by
  -- in reverse the slashes come first, and the front begins with something else
  have hr : path.toList.reverse = '/' :: (List.replicate n '/' ++ front.reverse) := by
    rw [hpath, List.reverse_append, List.reverse_replicate, List.replicate_succ, List.cons_append]
  have hslashes : ∀ c ∈ List.replicate n '/', (c == '/') = true := by simp
  rw [twin?, if_neg hne, hr]
  simp only [List.dropWhile_append_of_pos hslashes, dropWhile_reverse hfront,
    List.reverse_reverse]

theorem twin?_eq_some_iff {other : String} : twin? path = some other ↔ Twin path other := by
  constructor
  · intro h
    by_cases hne : path = "/"
    · simp [twin?, hne] at h
    by_cases hlast : path.toList.getLast? = some '/'
    · obtain ⟨front, n, hpath, hfront⟩ := exists_slashes hlast
      rw [twin?_of_bare hne hpath hfront] at h
      rw [← Option.some.inj h]
      exact .bare hne hpath hfront
    · rw [twin?_of_slashed hlast] at h
      rw [← Option.some.inj h]
      exact .slashed hlast
  · intro h
    cases h with
    | slashed hlast => exact twin?_of_slashed hlast
    | bare hne hpath hfront => exact twin?_of_bare hne hpath hfront

theorem hasPath_of_misses (h : r.Misses s q) (after : List Route) :
    hasPath s q (r :: after) = hasPath s q after := by
  rw [hasPath, matchRequest_of_misses h]
  rfl

theorem hasPath_of_hasPath (h : r.HasPath s q) (after : List Route) :
    hasPath s q (r :: after) = .ok true := by
  obtain ⟨⟨params, hfits⟩, hcompatible⟩ := h
  rw [hasPath, matchRequest_of_compatible hfits hcompatible, matchedBy]
  cases r.methods.contains q.method with
  | true => rfl
  | false => rfl

theorem hasPath_of_breaks (h : r.Breaks s q) (after : List Route) :
    ∃ fault, r.matchRequest s q = .error fault ∧ hasPath s q (r :: after) = .error fault := by
  obtain ⟨fault, hm⟩ := matchRequest_of_breaks h
  refine ⟨fault, hm, ?_⟩
  rw [hasPath, hm]
  rfl

theorem hasPath_append (h : ∀ r ∈ before, r.Misses s q) (after : List Route) :
    hasPath s q (before ++ after) = hasPath s q after := by
  induction before with
  | nil => rfl
  | cons r before ih =>
      obtain ⟨hr, hbefore⟩ := List.forall_mem_cons.1 h
      exact (hasPath_of_misses hr _).trans (ih hbefore)

theorem not_misses_iff : ¬ r.Misses s q ↔ r.HasPath s q ∨ r.Breaks s q := by
  constructor
  · intro h
    by_contra hr
    exact h ⟨fun hpath => hr (Or.inl hpath), fun hb => hr (Or.inr hb)⟩
  · rintro (hpath | hb) h
    · exact h.pathless hpath
    · exact h.unbroken hb

/-- Some first route knows the request, or all miss it. -/
theorem first_knows (s : Settings) (q : Http.Request) (routes : List Route) :
    (∃ r, First (Misses s q) routes r ∧ (r.HasPath s q ∨ r.Breaks s q)) ∨
      ∀ r ∈ routes, r.Misses s q := by
  have h := first_or_all (Misses s q) routes
  simpa only [not_misses_iff] using h

theorem redirect_of_twin (h : Twin q.path path) :
    redirect s q routes = (hasPath s { q with path := path } routes).map fun found =>
      if found then .redirect path else .unknown := by
  rw [redirect, twin?_eq_some_iff.2 h]

/-- A request is sent to the other path if the first route that knows of it there has the path. -/
theorem redirect_of_hasPath (h : Twin q.path path)
    (hfirst : First (Misses s { q with path := path }) routes r)
    (hr : r.HasPath s { q with path := path }) : redirect s q routes = .ok (.redirect path) := by
  obtain ⟨before, after, rfl, hbefore⟩ := hfirst
  rw [redirect_of_twin h, hasPath_append hbefore, hasPath_of_hasPath hr]
  rfl

theorem redirect_of_breaks (h : Twin q.path path)
    (hfirst : First (Misses s { q with path := path }) routes r)
    (hr : r.Breaks s { q with path := path }) :
    ∃ fault, r.matchRequest s { q with path := path } = .error fault ∧
      redirect s q routes = .error fault := by
  obtain ⟨before, after, rfl, hbefore⟩ := hfirst
  obtain ⟨fault, hm, hp⟩ := hasPath_of_breaks hr after
  refine ⟨fault, hm, ?_⟩
  rw [redirect_of_twin h, hasPath_append hbefore, hp]
  rfl

theorem redirect_of_misses
    (h : ∀ path, Twin q.path path → ∀ r ∈ routes, r.Misses s { q with path := path }) :
    redirect s q routes = .ok .unknown := by
  cases ht : twin? q.path with
  | none => rw [redirect, ht]
  | some path =>
      have htwin := twin?_eq_some_iff.1 ht
      have hmisses := hasPath_append (h path htwin) []
      rw [List.append_nil] at hmisses
      rw [redirect_of_twin htwin, hmisses]
      rfl

end Redirect

/-! ## The scope of a request -/

/-- What the routes have left about a request: the parameters of its path and the version that was
negotiated, null if there is none. -/
structure Scope where
  params : Table Value
  version : Value

namespace Scope

/-- The scope of a request that no route has taken. -/
def fresh : Scope := ⟨[], .null⟩

/-- The scope after an addition. A version stays if the addition has none. -/
def update (scope : Scope) (params : Table Value) (version? : Option Value) : Scope :=
  ⟨params, version?.getD scope.version⟩

end Scope

/-- What a route that matches as far as given offers: its version, if the request may get it. -/
def offerOf (s : Settings) (r : Route) (q : Http.Request) (found : MatchResult) :
    Except Fault (MatchResult × Option Value) :=
  if r.version.isNull then .ok (found, none)
  else (requestedVersion s q.headers).map fun wanted =>
    if r.admits wanted then (found, some r.version) else (.none, none)

/-- How far a route matches a request, and the version that it offers to the scope. -/
def offer (s : Settings) (r : Route) (q : Http.Request) :
    Except Fault (MatchResult × Option Value) := do
  match ← r.matchUnversioned q with
  | .none => .ok (.none, none)
  | found => r.offerOf s q found

/-- Where a request goes among routes, with the scope that it has there; `first?` is the scope that
the first route with the path would leave. -/
def negotiateFrom (s : Settings) (q : Http.Request) (scope : Scope) (first? : Option Scope) :
    List Route → Except Fault (Destination × Scope)
  | [] =>
      match first? with
      | some next => .ok (.wrongMethod, next)
      | none => .ok (.unknown, scope)
  | r :: rest => do
      let (found, version?) ← r.offer s q
      match found with
      | .full params => .ok (.route r params, scope.update params version?)
      | .path params =>
          negotiateFrom s q scope (some (first?.getD (scope.update params version?))) rest
      | .none => negotiateFrom s q scope first? rest

/-- Where a request goes, with the scope that it has there. A request that is sent elsewhere leaves
its scope as it is. -/
def negotiate (s : Settings) (q : Http.Request) (routes : List Route) :
    Except Fault (Destination × Scope) := do
  match ← negotiateFrom s q .fresh none routes with
  | (.unknown, scope) => (redirect s q routes).map (·, scope)
  | found => .ok found

section Scope

variable {s : Settings} {q : Http.Request} {r : Route} {params : Table Value}
  {routes : List Route}

theorem map_offerOf (found : MatchResult) :
    (r.offerOf s q found).map Prod.fst =
      if r.version.isNull then .ok found
      else (requestedVersion s q.headers).map fun wanted =>
        if r.admits wanted then found else .none := by
  unfold offerOf
  split
  · rfl
  · cases requestedVersion s q.headers with
    | error fault => rfl
    | ok wanted =>
        rw [map_ok, map_ok, map_ok]
        split
        · rfl
        · rfl

theorem version_of_offerOf {found : MatchResult} {version? : Option Value}
    (h : r.offerOf s q found = .ok (.full params, version?)) : version?.getD .null = r.version := by
  unfold offerOf at h
  split at h
  · rename_i hn
    rw [← (Prod.mk.inj (Except.ok.inj h)).2, Value.isNull_iff.1 hn]
    rfl
  · obtain ⟨wanted, -, h⟩ := map_eq_ok_iff.1 h
    -- only a version that the request may get is offered with a match
    cases hw : r.admits wanted with
    | true =>
        rw [hw, if_pos rfl] at h
        rw [← (Prod.mk.inj h).2]
        rfl
    | false => simp [hw] at h

theorem map_offer : (r.offer s q).map Prod.fst = r.matchRequest s q := by
  rw [offer, matchRequest]
  cases r.matchUnversioned q with
  | error fault => rfl
  | ok found =>
      cases found with
      | none => rfl
      | path params => exact map_offerOf _
      | full params => exact map_offerOf _

/-- A route that is taken has offered its version, or it has none. -/
theorem version_of_offer {version? : Option Value}
    (h : r.offer s q = .ok (.full params, version?)) : version?.getD .null = r.version := by
  rw [offer] at h
  obtain ⟨found, -, h⟩ := bind_eq_ok_iff.1 h
  cases found with
  | none => simp at h
  | path params => exact version_of_offerOf h
  | full params => exact version_of_offerOf h

/-- The scope does not change where the request goes. -/
theorem map_negotiateFrom (routes : List Route) (scope : Scope) (first? : Option Scope) :
    (negotiateFrom s q scope first? routes).map Prod.fst =
      dispatchFrom s q first?.isSome routes := by
  induction routes generalizing first? with
  | nil => cases first? <;> rfl
  | cons r routes ih =>
      rw [negotiateFrom, dispatchFrom, ← map_offer]
      cases r.offer s q with
      | error fault => rfl
      | ok offered =>
          obtain ⟨found, version?⟩ := offered
          cases found with
          | none => exact ih first?
          | path params => exact ih (some _)
          | full params => rfl

/-- Whatever was offered before, the scope has the version of the route that is taken. -/
theorem scope_of_negotiateFrom {scope next : Scope} {first? : Option Scope}
    (hs : scope.version = .null)
    (h : negotiateFrom s q scope first? routes = .ok (.route r params, next)) :
    next = ⟨params, r.version⟩ := by
  induction routes generalizing first? with
  | nil => cases first? <;> simp [negotiateFrom] at h
  | cons r' routes ih =>
      rw [negotiateFrom] at h
      obtain ⟨⟨found, version?⟩, hoffer, h⟩ := bind_eq_ok_iff.1 h
      cases found with
      | none => exact ih h
      -- what a route with another method offers is kept aside
      | path params => exact ih h
      | full params =>
          obtain ⟨hroute, rfl⟩ := Prod.mk.inj (Except.ok.inj h)
          obtain ⟨rfl, rfl⟩ := Destination.route.inj hroute
          rw [Scope.update, hs, version_of_offer hoffer]

theorem map_negotiate (s : Settings) (q : Http.Request) (routes : List Route) :
    (negotiate s q routes).map Prod.fst = dispatch s q routes := by
  have hsearch := map_negotiateFrom (s := s) (q := q) routes .fresh none
  rw [Option.isSome_none] at hsearch
  rw [negotiate, dispatch, ← hsearch]
  cases negotiateFrom s q .fresh none routes with
  | error fault => rfl
  | ok found =>
      obtain ⟨destination, scope⟩ := found
      cases destination with
      | unknown => cases redirect s q routes <;> rfl
      | _ => rfl

/-- A request comes to a route with the parameters of its path and the version of the route. -/
theorem negotiate_of_dispatch (h : dispatch s q routes = .ok (.route r params)) :
    negotiate s q routes = .ok (.route r params, ⟨params, r.version⟩) := by
  rw [← map_negotiate, map_eq_ok_iff] at h
  obtain ⟨⟨destination, scope⟩, hn, rfl⟩ := h
  obtain ⟨⟨destination, scope'⟩, hfrom, hfound⟩ := bind_eq_ok_iff.1 hn
  cases destination with
  | unknown =>
      -- what is sent elsewhere does not come to a route
      obtain ⟨_, hsent, he⟩ := map_eq_ok_iff.1 hfound
      rw [(Prod.mk.inj he).1] at hsent
      exact absurd hsent redirect_ne_route
  | _ => rw [hn, ← scope_of_negotiateFrom rfl (hfrom.trans hfound)]

end Scope

end ParamGate.Route
