import Mathlib.Data.List.TakeWhile
import RpcHost.Files.Path

/-!
# The path above a path

The path above another one is found in its text. `isAbove_of_parent?` says what it is found for: it
leads the same way, up to the last steps.
-/

namespace RpcHost
namespace Files

theorem Step.ofName_ne_stay {name : String} (h : name ≠ ".") : Step.ofName name ≠ .stay := by
  unfold Step.ofName
  rw [if_neg h]
  split <;> simp

namespace Path

variable {p parent : Path} {kept dropped : List (List Char)}

/-- What stands between slashes. -/
def pieces (p : Path) : List (List Char) :=
  p.text.toList.splitOn '/'

def stepsOf (pieces : List (List Char)) : List Step :=
  (pieces.filter (· ≠ [])).map (Step.ofName ∘ String.ofList)

theorem steps_eq (p : Path) : p.steps = stepsOf p.pieces :=
  rfl

theorem stepsOf_append (front back : List (List Char)) :
    stepsOf (front ++ back) = stepsOf front ++ stepsOf back := by
  simp [stepsOf]

/-- A piece that is not idle is a step that leads somewhere. -/
theorem exists_ne_stay {piece : List Char} (hmem : piece ∈ dropped) (h : isIdle piece = false) :
    ∃ s ∈ stepsOf dropped, s ≠ .stay := by
  have hidle : piece ≠ [] ∧ piece ≠ ['.'] := by
    simpa [isIdle] using h
  refine ⟨Step.ofName (String.ofList piece), ?_, Step.ofName_ne_stay ?_⟩
  · exact List.mem_map.2 ⟨piece, List.mem_filter.2 ⟨hmem, by simpa using hidle.1⟩, rfl⟩
  · intro hdot
    exact hidle.2 (by simpa using congrArg String.toList hdot)

/-! ### Pieces of a text -/

theorem not_mem_of_mem_splitOn {sep : Char} {cs piece : List Char} (h : piece ∈ cs.splitOn sep) :
    sep ∉ piece := by
  induction cs generalizing piece with
  | nil =>
      rw [List.splitOn_nil, List.mem_singleton] at h
      simp [h]
  | cons c cs ih =>
      rw [List.splitOn_cons_eq_if_modifyHead] at h
      split at h
      · rcases List.mem_cons.1 h with rfl | h
        · simp
        · exact ih h
      · rename_i hc
        cases hsplit : cs.splitOn sep with
        | nil => exact absurd hsplit (List.splitOn_ne_nil sep cs)
        | cons first more =>
            rw [hsplit, List.modifyHead_cons] at h
            rcases List.mem_cons.1 h with rfl | hmore
            · have hfirst : sep ∉ first := ih (hsplit ▸ List.mem_cons_self)
              have hne : sep ≠ c := fun heq => hc (beq_iff_eq.2 heq.symm)
              simp [hne, hfirst]
            · exact ih (hsplit ▸ List.mem_cons_of_mem _ hmore)

/-- Some of the pieces of a path are the pieces of what they are joined to. -/
theorem pieces_joined (hsub : kept ⊆ p.pieces) (hne : kept ≠ []) :
    pieces ⟨String.ofList (['/'].intercalate kept)⟩ = kept := by
  unfold pieces
  rw [String.toList_ofList]
  exact List.splitOn_intercalate '/' (fun piece hmem => not_mem_of_mem_splitOn (hsub hmem)) hne

/-- A path that begins with a slash begins with an empty piece. -/
theorem isAbsolute_iff (p : Path) :
    p.isAbsolute = true ↔ ∃ piece more, p.pieces = [] :: piece :: more := by
  unfold isAbsolute pieces
  cases hchars : p.text.toList with
  | nil => simp
  | cons c cs =>
      rw [List.splitOn_cons_eq_if_modifyHead]
      cases hsplit : cs.splitOn '/' with
      | nil => exact absurd hsplit (List.splitOn_ne_nil '/' cs)
      | cons first more =>
          by_cases hc : c = '/'
          · simp [hc]
          · simp [hc]

/-! ### The path above -/

/-- A piece that leads somewhere is dropped if there is one. -/
theorem exists_dropLastPiece (pieces : List (List Char)) :
    ∃ dropped, pieces = dropLastPiece pieces ++ dropped
      ∧ (pieces.all isIdle = false → ∃ piece ∈ dropped, isIdle piece = false) := by
  -- Seen from the back: idle pieces, the last that leads somewhere, idle ones again, what is kept.
  cases hrest : pieces.reverse.dropWhile isIdle with
  | nil =>
      refine ⟨pieces, by simp [dropLastPiece, hrest], ?_⟩
      intro hsome
      have hall : ∀ piece ∈ pieces, isIdle piece = true := fun piece hmem =>
        List.dropWhile_eq_nil_iff.1 hrest piece (List.mem_reverse.2 hmem)
      rw [List.all_eq_true.2 hall] at hsome
      cases hsome
  | cons last before =>
      have hlast : isIdle last = false := by
        have hhead := List.head_dropWhile_not isIdle (l := pieces.reverse) (by simp [hrest])
        simpa [hrest] using hhead
      have hkept : dropLastPiece pieces = (before.dropWhile isIdle).reverse := by
        simp [dropLastPiece, hrest]
      refine ⟨(before.takeWhile isIdle).reverse
        ++ last :: (pieces.reverse.takeWhile isIdle).reverse, ?_, fun _ => ⟨last, by simp, hlast⟩⟩
      calc
        pieces = (pieces.reverse.takeWhile isIdle ++ last :: before).reverse := by
          rw [← hrest, List.takeWhile_append_dropWhile, List.reverse_reverse]
        _ = before.reverse ++ last :: (pieces.reverse.takeWhile isIdle).reverse := by simp
        _ = (before.takeWhile isIdle ++ before.dropWhile isIdle).reverse
              ++ last :: (pieces.reverse.takeWhile isIdle).reverse := by
          rw [List.takeWhile_append_dropWhile]
        _ = dropLastPiece pieces ++ ((before.takeWhile isIdle).reverse
              ++ last :: (pieces.reverse.takeWhile isIdle).reverse) := by
          rw [hkept, List.reverse_append, List.append_assoc]

/-- A path leads the way that another one leads, up to its last steps. -/
structure IsAbove (parent p : Path) : Prop where
  isAbsolute : parent.isAbsolute = p.isAbsolute
  steps : ∃ rest, p.steps = parent.steps ++ rest ∧ ∃ s ∈ rest, s ≠ .stay

theorem isAbove_root {below : List (List Char)} (hpieces : p.pieces = [] :: below)
    (hidle : below.all isIdle = false) : IsAbove ⟨"/"⟩ p := by
  rcases exists_dropLastPiece below with ⟨dropped, hbelow, hsome⟩
  rcases hsome hidle with ⟨piece, hmem, hpiece⟩
  have hpresent : piece ∈ p.pieces := by
    rw [hpieces, hbelow]
    simp [hmem]
  refine ⟨?_, p.steps, rfl, exists_ne_stay hpresent hpiece⟩
  refine Eq.symm ((isAbsolute_iff p).2 ?_)
  cases below with
  | nil => cases hidle
  | cons first more => exact ⟨first, more, hpieces⟩

/-- Of an absolute path more than the first piece has to be kept. -/
theorem isAbove_joined (hpieces : p.pieces = kept ++ dropped) (hne : kept ≠ [])
    (hroot : kept ≠ [[]]) {piece : List Char} (hmem : piece ∈ dropped)
    (hidle : isIdle piece = false) : IsAbove ⟨String.ofList (['/'].intercalate kept)⟩ p := by
  have hjoined := pieces_joined (p := p) (by simp [hpieces]) hne
  refine ⟨?_, stepsOf dropped, ?_, exists_ne_stay hmem hidle⟩
  · rw [Bool.eq_iff_iff, isAbsolute_iff, isAbsolute_iff, hjoined, hpieces]
    match kept with
    | [] => exact absurd rfl hne
    | [_] => simp_all
    | _ :: _ :: _ => simp
  · rw [steps_eq, steps_eq, hjoined, hpieces, stepsOf_append]

/-- A path that begins with a piece that leads somewhere is relative. -/
theorem isAbove_dropLastPiece {first : List Char} {more : List (List Char)}
    (hpieces : p.pieces = first :: more) (hfirst : isIdle first = false)
    (hkept : dropLastPiece p.pieces ≠ []) :
    IsAbove ⟨String.ofList (['/'].intercalate (dropLastPiece p.pieces))⟩ p := by
  rcases exists_dropLastPiece p.pieces with ⟨dropped, hdropped, hsome⟩
  rcases hsome (by simp [hpieces, hfirst]) with ⟨piece, hmem, hpiece⟩
  refine isAbove_joined hdropped hkept ?_ hmem hpiece
  intro hroot
  rw [hroot, hpieces, List.cons_append] at hdropped
  cases hdropped
  cases hfirst

theorem isAbove_of_parent? (h : p.parent? = some parent) (hne : parent.text ≠ "") :
    IsAbove parent p := by
  unfold parent? at h
  dsimp only at h
  split at h
  · cases h
  · cases h
  · -- An absolute path: the root itself, a name in the root, or anything below.
    rename_i below _ hpieces
    split at h
    · cases h
    · rename_i hidle
      have hidle : below.all isIdle = false := Bool.eq_false_iff.2 hidle
      split at h
      · cases h
        exact isAbove_root hpieces hidle
      · rename_i hkept
        rcases exists_dropLastPiece below with ⟨dropped, hbelow, hsome⟩
        rcases hsome hidle with ⟨piece, hmem, hpiece⟩
        cases h
        refine isAbove_joined ?_ (by simp) (by simpa using hkept) hmem hpiece
        rw [List.cons_append, ← hbelow]
        exact hpieces
  · -- A path that begins with a dot, which stays.
    rename_i below hpieces
    split at h
    · cases h
      exact absurd rfl hne
    · rename_i hidle
      rcases exists_dropLastPiece below with ⟨dropped, hbelow, hsome⟩
      rcases hsome (Bool.eq_false_iff.2 hidle) with ⟨piece, hmem, hpiece⟩
      cases h
      refine isAbove_joined ?_ (by simp) (by simp) hmem hpiece
      rw [List.cons_append, ← hbelow]
      exact hpieces
  · -- Any other path begins with a piece that leads somewhere.
    rename_i hnone _ habsolute hdot
    cases h
    cases hpieces : p.pieces with
    | nil => exact absurd hpieces hnone
    | cons first more =>
        refine isAbove_dropLastPiece hpieces ?_ ?_
        · have hfirst : first ≠ [] := by
            rintro rfl
            exact habsolute more hpieces
          have hdotted : first ≠ ['.'] := by
            rintro rfl
            exact hdot more hpieces
          simp [isIdle, hfirst, hdotted]
        · intro hnone
          exact hne (congrArg (fun kept => String.ofList (['/'].intercalate kept)) hnone)

end Path

end Files
end RpcHost
