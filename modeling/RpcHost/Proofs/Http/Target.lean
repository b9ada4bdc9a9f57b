import Mathlib.Data.List.TakeWhile
import RpcHost.Http.Opening
import RpcHost.Proofs.Results

/-!
# Targets without their queries

A query is checked, but nothing comes of it: a target is read as what is in front of its query
(`readTarget_beforeQuery`), and if it begins with a slash, that is the path as it stands
(`readTarget_slash`). The path of a request is read of its target in this way
(`path_of_readOpening`).
-/

namespace RpcHost
namespace Http

variable {cs rest path : List Char}

/-- What stands in front of the query and the fragment of a target. -/
def beforeQuery (cs : List Char) : List Char :=
  cs.takeWhile fun c => c ≠ '?' && c ≠ '#'

theorem beforeQuery_append (h : ∀ c ∈ cs, c ≠ '?' ∧ c ≠ '#') (rest : List Char) :
    beforeQuery (cs ++ rest) = cs ++ beforeQuery rest :=
  List.takeWhile_append_of_pos fun c hc => by simpa using h c hc

theorem beforeQuery_eq_self (h : ∀ c ∈ cs, c ≠ '?' ∧ c ≠ '#') : beforeQuery cs = cs :=
  List.takeWhile_eq_self_iff.2 fun c hc => by simpa using h c hc

theorem drop_length_takeWhile (p : Char → Bool) (cs : List Char) :
    cs.drop (cs.takeWhile p).length = cs.dropWhile p :=
  calc
    cs.drop (cs.takeWhile p).length
        = (cs.takeWhile p ++ cs.dropWhile p).drop (cs.takeWhile p).length := by
          rw [List.takeWhile_append_dropWhile]
    _ = cs.dropWhile p := List.drop_left

@[simp] theorem beforeQuery_cons {c : Char} (cs : List Char) :
    beforeQuery (c :: cs) = if c ≠ '?' ∧ c ≠ '#' then c :: beforeQuery cs else [] := by
  by_cases h : c ≠ '?' ∧ c ≠ '#' <;> simp [beforeQuery, h]

/-- A run of characters that a query does not begin with is the same in front of the query. -/
theorem span_beforeQuery {p : Char → Bool} (hp : ∀ c, p c = true → c ≠ '?' ∧ c ≠ '#')
    (cs : List Char) :
    (beforeQuery cs).takeWhile p = cs.takeWhile p
    ∧ (beforeQuery cs).dropWhile p = beforeQuery (cs.dropWhile p) := by
  induction cs with
  | nil => exact ⟨rfl, rfl⟩
  | cons c cs ih =>
      by_cases hc : p c = true
      · simp [hp c hc, hc, ih]
      · by_cases hends : c ≠ '?' ∧ c ≠ '#' <;> simp [hends, hc]

/-! ## Paths -/

theorem pathOf_eq_some (h : pathOf cs = some path) :
    (∀ c ∈ beforeQuery cs, isPathChar c = true)
    ∧ path = if beforeQuery cs = [] then ['/'] else beforeQuery cs := by
  unfold pathOf at h
  simp only [Bool.and_eq_true, Option.ite_none_right_eq_some, Option.some.injEq] at h
  rcases h with ⟨⟨hchars, _⟩, hpath⟩
  exact ⟨List.all_eq_true.1 hchars, hpath.symm⟩

theorem isPathChar_ends {c : Char} (h : isPathChar c = true) : c ≠ '?' ∧ c ≠ '#' := by
  constructor <;> (rintro rfl; exact absurd h (by decide))

theorem pathOf_of_path (h : ∀ c ∈ cs, isPathChar c = true) :
    pathOf cs = some (if cs = [] then ['/'] else cs) := by
  have hpath : cs.takeWhile (fun c => c ≠ '?' && c ≠ '#') = cs :=
    beforeQuery_eq_self fun c hc => isPathChar_ends (h c hc)
  simp only [pathOf, hpath, List.drop_length, List.all_nil, Bool.and_true, List.all_eq_true]
  exact if_pos h

theorem pathOf_beforeQuery (h : pathOf cs = some path) : pathOf (beforeQuery cs) = some path := by
  rcases pathOf_eq_some h with ⟨hchars, rfl⟩
  exact pathOf_of_path hchars

/-! ## Schemes and authorities -/

theorem isSchemeChar_ends {c : Char} (h : isSchemeChar c = true) : c ≠ '?' ∧ c ≠ '#' := by
  constructor <;> (rintro rfl; exact absurd h (by decide))

theorem afterScheme?_eq_some_iff :
    afterScheme? cs = some rest ↔
      ∃ scheme, cs = scheme ++ ':' :: '/' :: '/' :: rest
        ∧ (∀ c ∈ scheme, isSchemeChar c = true) ∧ scheme.length ≤ 64 := by
  constructor
  · intro h
    unfold afterScheme? at h
    simp only [drop_length_takeWhile] at h
    split at h
    · rename_i after hdrop
      split at h
      · cases h
      · rename_i hlength
        cases h
        refine ⟨_, ?_, fun c hc => List.mem_takeWhile_imp hc, Nat.not_lt.1 hlength⟩
        rw [← hdrop, List.takeWhile_append_dropWhile]
    · cases h
  · rintro ⟨scheme, rfl, hchars, hlength⟩
    have htake : (scheme ++ ':' :: '/' :: '/' :: rest).takeWhile isSchemeChar = scheme := by
      rw [List.takeWhile_append_of_pos hchars, List.takeWhile_cons_of_neg (by decide),
        List.append_nil]
    simp only [afterScheme?, htake, List.drop_left]
    exact if_neg (Nat.not_lt.2 hlength)

theorem afterScheme?_beforeQuery (h : afterScheme? cs = some rest) :
    afterScheme? (beforeQuery cs) = some (beforeQuery rest) := by
  rcases afterScheme?_eq_some_iff.1 h with ⟨scheme, rfl, hchars, hlength⟩
  refine afterScheme?_eq_some_iff.2 ⟨scheme, ?_, hchars, hlength⟩
  exact beforeQuery_append (fun c hc => isSchemeChar_ends (hchars c hc)) _

theorem ends_of_next {s s' : AuthorityScan} {c : Char} (h : s.next c = some s') :
    c ≠ '?' ∧ c ≠ '#' := by
  constructor <;> (rintro rfl; cases h)

theorem ends_of_scan {s s' : AuthorityScan} (h : cs.foldlM AuthorityScan.next s = some s') :
    ∀ c ∈ cs, c ≠ '?' ∧ c ≠ '#' := by
  induction cs generalizing s with
  | nil => simp
  | cons c cs ih =>
      rw [List.foldlM_cons] at h
      rcases Option.bind_eq_some_iff.1 h with ⟨next, hnext, hrest⟩
      exact List.forall_mem_cons.2 ⟨ends_of_next hnext, ih hrest⟩

/-- No query follows an authority that is the whole target. -/
theorem ends_of_isAuthority (h : isAuthority cs = true) : ∀ c ∈ cs, c ≠ '?' ∧ c ≠ '#' := by
  unfold isAuthority at h
  split at h
  · rename_i hscan
    exact ends_of_scan hscan
  · cases h

/-! ## Targets -/

/-- The path of a target that begins with a scheme. -/
def pathAfterScheme (rest : List Char) : Option (List Char) :=
  let authority := rest.takeWhile fun c => c ≠ '/' && c ≠ '?' && c ≠ '#'
  if authority ≠ [] && isAuthority authority then pathOf (rest.drop authority.length) else none

theorem readTarget_of_scheme (h : afterScheme? cs = some rest) :
    readTarget cs = (pathAfterScheme rest).map String.ofList := by
  unfold readTarget
  split
  · cases h
  · cases h
  · cases h
  · rw [h]
    simp only [pathAfterScheme]
    split <;> rfl

theorem pathAfterScheme_beforeQuery (h : pathAfterScheme rest = some path) :
    pathAfterScheme (beforeQuery rest) = some path := by
  have hends : ∀ c : Char, (c ≠ '/' && c ≠ '?' && c ≠ '#') = true → c ≠ '?' ∧ c ≠ '#' := by
    intro c hc
    simp only [Bool.and_eq_true, decide_eq_true_eq] at hc
    exact ⟨hc.1.2, hc.2⟩
  -- The authority ends before a query begins, so only the path after it is cut.
  rcases span_beforeQuery hends rest with ⟨hauthority, hafter⟩
  simp only [pathAfterScheme, drop_length_takeWhile, Option.ite_none_right_eq_some] at h ⊢
  rw [hauthority, hafter]
  exact ⟨h.1, pathOf_beforeQuery h.2⟩

/-- A target without a scheme and without a slash in front has no query. -/
theorem readTarget_cases {path : String} (h : readTarget cs = some path) :
    (∃ rest, cs = '/' :: rest) ∨ (∃ rest, afterScheme? cs = some rest)
    ∨ ∀ c ∈ cs, c ≠ '?' ∧ c ≠ '#' := by
  unfold readTarget at h
  split at h
  · cases h
  · exact .inr (.inr (List.forall_mem_singleton.2 ⟨by decide, by decide⟩))
  · exact .inl ⟨_, rfl⟩
  · split at h
    · rename_i rest hscheme
      exact .inr (.inl ⟨rest, hscheme⟩)
    · split at h
      · rename_i hauthority
        exact .inr (.inr (ends_of_isAuthority hauthority))
      · cases h

/-- The path of a target that begins with a slash is what stands in front of the query. -/
theorem readTarget_slash {path : String} (h : readTarget ('/' :: rest) = some path) :
    path = String.ofList (beforeQuery ('/' :: rest)) := by
  rcases Option.map_eq_some_iff.1 h with ⟨found, hfound, rfl⟩
  rw [(pathOf_eq_some hfound).2, if_neg]
  simp

theorem readTarget_beforeQuery {path : String} (h : readTarget cs = some path) :
    readTarget (beforeQuery cs) = some path := by
  rcases readTarget_cases h with ⟨rest, rfl⟩ | ⟨rest, hscheme⟩ | hends
  · rcases Option.map_eq_some_iff.1 h with ⟨found, hfound, rfl⟩
    have hcut := pathOf_beforeQuery hfound
    rw [beforeQuery_cons, if_pos (by decide)] at hcut ⊢
    exact congrArg (Option.map String.ofList) hcut
  · rw [readTarget_of_scheme hscheme] at h
    rcases Option.map_eq_some_iff.1 h with ⟨found, hfound, rfl⟩
    rw [readTarget_of_scheme (afterScheme?_beforeQuery hscheme),
      pathAfterScheme_beforeQuery hfound]
    rfl
  · rwa [beforeQuery_eq_self hends]

/-! ## Openings -/

/-- The target in the request line at the front of some bytes. -/
def HasTarget (bytes : Bytes) (target : String) : Prop :=
  ∃ front line rest, front <+: bytes ∧ readRequestLine front = .ok (line, rest)
    ∧ Text.ofUtf8? line.target = some target

theorem readPath_eq_ok {target : Bytes} {path : String} (h : readPath target = .ok path) :
    ∃ text, Text.ofUtf8? target = some text ∧ readTarget text.toList = some path := by
  unfold readPath at h
  split at h
  · cases h
  · cases htext : Text.ofUtf8? target with
    | none =>
        simp [htext, malformed] at h
    | some text =>
        refine ⟨text, rfl, ?_⟩
        cases hpath : readTarget text.toList with
        | none => simp [htext, hpath, malformed] at h
        | some found => simpa [htext, hpath] using h

theorem target_of_opening {bytes rest : Bytes} {opening : Opening}
    (h : Opening.ofBytes bytes = .ok (opening, rest)) :
    ∃ line after text, readRequestLine bytes = .ok (line, after)
      ∧ Text.ofUtf8? line.target = some text
      ∧ readTarget text.toList = some opening.head.path := by
  rcases bind_eq_ok_iff.1 h with ⟨⟨line, after⟩, hline, h⟩
  rcases bind_eq_ok_iff.1 h with ⟨⟨fields, after'⟩, _, h⟩
  rcases bind_eq_ok_iff.1 h with ⟨path, hpath, h⟩
  rcases bind_eq_ok_iff.1 h with ⟨framing, _, h⟩
  cases h
  rcases readPath_eq_ok hpath with ⟨text, htext, htarget⟩
  exact ⟨line, after, text, hline, htext, htarget⟩

/-- The path of a request is what its target comes to without the query. -/
theorem path_of_readOpening {bytes rest : Bytes} {opening : Opening}
    (h : readOpening bytes = .ok (opening, rest)) :
    ∃ target, HasTarget bytes target
      ∧ readTarget (beforeQuery target.toList) = some opening.head.path := by
  have hfront : ∃ front after, front <+: bytes ∧ Opening.ofBytes front = .ok (opening, after) := by
    unfold readOpening at h
    -- The line was read either of the bytes received at first or of all of them.
    cases hfirst : Opening.ofBytes (bytes.take firstSize) with
    | ok found =>
        rcases found with ⟨found, after⟩
        simp only [hfirst] at h
        cases h
        exact ⟨_, after, List.take_prefix _ _, hfirst⟩
    | error stop =>
        cases stop with
        | refused status =>
            simp only [hfirst] at h
            cases h
        | unfinished =>
            simp only [hfirst] at h
            split at h
            · exact ⟨bytes, rest, List.prefix_rfl, h⟩
            · cases h
  rcases hfront with ⟨front, after, hprefix, hopening⟩
  rcases target_of_opening hopening with ⟨line, after, target, hline, htext, htarget⟩
  exact ⟨target, ⟨front, line, after, hprefix, hline, htext⟩, readTarget_beforeQuery htarget⟩

end Http
end RpcHost
