import RpcHost.Proofs.Json.Steps
import RpcHost.Proofs.Json.Tokens
import RpcHost.Proofs.Text.Utf8

/-!
# Text behind a value

A container ends where its closing bracket stands. So a text that reads as a container is read the
same with more text behind it, up to what is left over (`ReadsFurther`), and it cannot be cut off
and still be read: `read_ne_ok_of_cut`.
-/

namespace RpcHost
namespace Json

variable {fuel depth : Nat} {cs rest more : List Char} {v w : Value}

/-! ## More text and more steps -/

/-- What is read with this much fuel is read with as much or more fuel and with more text behind it.
A value that is no container has to be followed by something, since a number might go on. -/
structure ReadsFurther (fuel : Nat) : Prop where
  value : ∀ {depth : Nat} {cs rest : List Char} {v : Value},
    scanValue fuel depth cs = .ok (v, rest) → (rest ≠ [] ∨ v.isContainer = true) →
    ∀ {greater : Nat} (more : List Char), fuel ≤ greater →
      scanValue greater depth (cs ++ more) = .ok (v, rest ++ more)
  items : ∀ {depth : Nat} {acc : List Value} {cs rest : List Char} {v : Value},
    scanItems fuel depth acc cs = .ok (v, rest) →
    ∀ {greater : Nat} (more : List Char), fuel ≤ greater →
      scanItems greater depth acc (cs ++ more) = .ok (v, rest ++ more)
  members : ∀ {depth : Nat} {acc : Members} {cs rest : List Char} {v : Value},
    scanMembers fuel depth acc cs = .ok (v, rest) →
    ∀ {greater : Nat} (more : List Char), fuel ≤ greater →
      scanMembers greater depth acc (cs ++ more) = .ok (v, rest ++ more)

/-- A bracket or a comma is found again when more text follows. -/
theorem skipBlanks_append_eq {c : Char} {after : List Char} (h : skipBlanks cs = c :: after)
    (more : List Char) : skipBlanks (cs ++ more) = c :: (after ++ more) := by
  rw [skipBlanks_append (by simp [h]) more, h]
  rfl

theorem ne_nil_of_skipBlanks {c : Char} {after : List Char} (h : skipBlanks cs = c :: after) :
    cs ≠ [] := by
  rintro rfl
  cases h

theorem readsFurther_value (ih : ReadsFurther fuel)
    (h : scanValue (fuel + 1) depth cs = .ok (v, rest))
    (hend : rest ≠ [] ∨ v.isContainer = true) {greater : Nat} (more : List Char)
    (hfuel : fuel + 1 ≤ greater) :
    scanValue greater depth (cs ++ more) = .ok (v, rest ++ more) := by
  cases greater with
  | zero => omega
  | succ greater =>
      have hle : fuel ≤ greater := by
        omega
      refine scanValue_of_step ?_
      cases valueStep_of_ok h with
      | noItems hopen hdepth hclose =>
          exact .noItems (skipBlanks_append_eq hopen more) hdepth
            (skipBlanks_append_eq hclose more)
      | @items body _ _ hopen hdepth hitems =>
          have hbody : skipBlanks body ≠ [] := by
            intro hnil
            exact scanItems_ne_ok_of_close (.inl (by rw [hnil]; rfl)) hitems
          refine .items (skipBlanks_append_eq hopen more) hdepth ?_
          rw [skipBlanks_append hbody more]
          exact ih.items hitems more hle
      | noMembers hopen hdepth hclose =>
          exact .noMembers (skipBlanks_append_eq hopen more) hdepth
            (skipBlanks_append_eq hclose more)
      | @members body _ _ hopen hdepth hmembers =>
          have hbody : skipBlanks body ≠ [] := by
            intro hnil
            exact scanMembers_ne_ok_of_close (.inl (by rw [hnil]; rfl)) hmembers
          refine .members (skipBlanks_append_eq hopen more) hdepth ?_
          rw [skipBlanks_append hbody more]
          exact ih.members hmembers more hle
      | scalar hscalar =>
          have hrest : rest ≠ [] := by
            rcases hend with hrest | hcontainer
            · exact hrest
            · rw [isContainer_of_scanScalar hscalar] at hcontainer
              cases hcontainer
          have hcs : skipBlanks cs ≠ [] := by
            intro hnil
            rw [hnil] at hscalar
            cases hscalar
          refine .scalar ?_
          rw [skipBlanks_append hcs more]
          exact scanScalar_delimitedInside more hrest hscalar

theorem readsFurther_items (ih : ReadsFurther fuel) {acc : List Value}
    (h : scanItems (fuel + 1) depth acc cs = .ok (v, rest)) {greater : Nat} (more : List Char)
    (hfuel : fuel + 1 ≤ greater) :
    scanItems greater depth acc (cs ++ more) = .ok (v, rest ++ more) := by
  cases greater with
  | zero => omega
  | succ greater =>
      have hle : fuel ≤ greater := by
        omega
      refine scanItems_of_step ?_
      cases itemsStep_of_ok h with
      | last hitem hclose =>
          exact .last (ih.value hitem (.inl (ne_nil_of_skipBlanks hclose)) more hle)
            (skipBlanks_append_eq hclose more)
      | next hitem hcomma hmore =>
          exact .next (ih.value hitem (.inl (ne_nil_of_skipBlanks hcomma)) more hle)
            (skipBlanks_append_eq hcomma more) (ih.items hmore more hle)

theorem readsFurther_members (ih : ReadsFurther fuel) {acc : Members}
    (h : scanMembers (fuel + 1) depth acc cs = .ok (v, rest)) {greater : Nat} (more : List Char)
    (hfuel : fuel + 1 ≤ greater) :
    scanMembers greater depth acc (cs ++ more) = .ok (v, rest ++ more) := by
  cases greater with
  | zero => omega
  | succ greater =>
      have hle : fuel ≤ greater := by
        omega
      have hkeyFurther : ∀ key colon, scanKey (skipBlanks cs) = .ok (key, colon) →
          scanKey (skipBlanks (cs ++ more)) = .ok (key, colon ++ more) := by
        intro key colon hkey
        have hcs : skipBlanks cs ≠ [] := by
          intro hnil
          rw [hnil] at hkey
          cases hkey
        rw [skipBlanks_append hcs more]
        exact scanKey_selfDelimiting more hkey
      refine scanMembers_of_step ?_
      cases membersStep_of_ok h with
      | last hkey hvalue hclose =>
          exact .last (hkeyFurther _ _ hkey)
            (ih.value hvalue (.inl (ne_nil_of_skipBlanks hclose)) more hle)
            (skipBlanks_append_eq hclose more)
      | next hkey hvalue hcomma hmore =>
          exact .next (hkeyFurther _ _ hkey)
            (ih.value hvalue (.inl (ne_nil_of_skipBlanks hcomma)) more hle)
            (skipBlanks_append_eq hcomma more) (ih.members hmore more hle)

theorem readsFurther (fuel : Nat) : ReadsFurther fuel := by
  -- The three readers call one another with less fuel, so all three go through one induction.
  induction fuel with
  | zero =>
      refine ⟨?_, ?_, ?_⟩
      · intro depth cs rest v h
        cases h
      · intro depth acc cs rest v h
        cases h
      · intro depth acc cs rest v h
        cases h
  | succ fuel ih =>
      refine ⟨?_, ?_, ?_⟩
      · intro depth cs rest v h hend greater more hfuel
        exact readsFurther_value ih h hend more hfuel
      · intro depth acc cs rest v h greater more hfuel
        exact readsFurther_items ih h more hfuel
      · intro depth acc cs rest v h greater more hfuel
        exact readsFurther_members ih h more hfuel

/-! ## Containers and their brackets -/

theorem isContainer_of_scanItems {acc : List Value}
    (h : scanItems fuel depth acc cs = .ok (v, rest)) : v.isContainer = true := by
  induction fuel generalizing acc cs with
  | zero => cases h
  | succ fuel ih =>
      cases itemsStep_of_ok h with
      | last _ _ => rfl
      | next _ _ hmore => exact ih hmore

theorem isContainer_of_scanMembers {acc : Members}
    (h : scanMembers fuel depth acc cs = .ok (v, rest)) : v.isContainer = true := by
  induction fuel generalizing acc cs with
  | zero => cases h
  | succ fuel ih =>
      cases membersStep_of_ok h with
      | last _ _ _ => rfl
      | next _ _ _ hmore => exact ih hmore

/-- The text begins, after blanks, with an opening bracket. -/
def Opens (cs : List Char) : Prop :=
  ∃ body, skipBlanks cs = '[' :: body ∨ skipBlanks cs = '{' :: body

/-- A value is a container when its text opens with a bracket, and only then. -/
theorem isContainer_iff_opens (h : scanValue (fuel + 1) depth cs = .ok (v, rest)) :
    v.isContainer = true ↔ Opens cs := by
  cases valueStep_of_ok h with
  | noItems hopen _ _ => exact ⟨fun _ => ⟨_, .inl hopen⟩, fun _ => rfl⟩
  | items hopen _ hitems =>
      exact ⟨fun _ => ⟨_, .inl hopen⟩, fun _ => isContainer_of_scanItems hitems⟩
  | noMembers hopen _ _ => exact ⟨fun _ => ⟨_, .inr hopen⟩, fun _ => rfl⟩
  | members hopen _ hmembers =>
      exact ⟨fun _ => ⟨_, .inr hopen⟩, fun _ => isContainer_of_scanMembers hmembers⟩
  | scalar hscalar =>
      constructor
      · intro hcontainer
        rw [isContainer_of_scanScalar hscalar] at hcontainer
        cases hcontainer
      · rintro ⟨body, hopen | hopen⟩ <;> simp [hopen, scanScalar] at hscalar

/-! ## Whole texts -/

/-- A text is read as a value when nothing but blanks is left over. -/
theorem read_eq_ok_iff : read cs = .ok v ↔ ∃ rest,
    scanValue (enoughFuel cs) greatestDepth cs = .ok (v, rest) ∧ skipBlanks rest = [] := by
  unfold read finish
  cases scanValue (enoughFuel cs) greatestDepth cs with
  | error e => simp
  | ok found =>
      rcases found with ⟨found, rest⟩
      by_cases hrest : skipBlanks rest = []
      · simp only [hrest, if_true, Except.ok.injEq, Prod.mk.injEq]
        constructor
        · intro heq
          exact ⟨rest, ⟨heq, rfl⟩, hrest⟩
        · rintro ⟨_, ⟨heq, _⟩, _⟩
          exact heq
      · simp [hrest]

theorem enoughFuel_le_append (cs more : List Char) :
    enoughFuel cs ≤ enoughFuel (cs ++ more) := by
  simp only [enoughFuel, List.length_append]
  omega

/-- Text behind a container is not read with it, and may only be blank. -/
theorem read_append_of_container (h : read cs = .ok v) (hv : v.isContainer = true)
    (more : List Char) :
    read (cs ++ more) = if skipBlanks more = [] then .ok v else .error .malformed := by
  rcases read_eq_ok_iff.1 h with ⟨rest, hscan, hrest⟩
  have hfurther := (readsFurther _).value hscan (.inr hv) more (enoughFuel_le_append cs more)
  have hleft : skipBlanks (rest ++ more) = skipBlanks more :=
    skipBlanks_append_of_blank (skipBlanks_eq_nil_iff.1 hrest) more
  simp [read, finish, hfurther, hleft]

/-- A text that reads as a container cannot be cut off before its last sign and still be read. -/
theorem read_ne_ok_of_cut {cut : List Char} (h : read (cs ++ cut) = .ok v)
    (hv : v.isContainer = true) (hcut : skipBlanks cut ≠ []) : read cs ≠ .ok w := by
  intro hcs
  rcases read_eq_ok_iff.1 hcs with ⟨rest, hscan, _⟩
  rcases read_eq_ok_iff.1 h with ⟨_, hwhole, _⟩
  -- The shorter text opens with the same bracket, so it is a container with text behind it.
  have hopens : Opens cs := by
    have hcs : skipBlanks cs ≠ [] := by
      intro hnil
      refine scanValue_ne_ok_of_close (.inl hnil) hscan
    rcases (isContainer_iff_opens hwhole).1 hv with ⟨body, hopen⟩
    rw [skipBlanks_append hcs cut] at hopen
    cases hshort : skipBlanks cs with
    | nil => exact absurd hshort hcs
    | cons c after =>
        rw [hshort] at hopen
        refine ⟨after, ?_⟩
        rcases hopen with hopen | hopen
        · exact .inl (by rw [hshort, (List.cons.inj hopen).1])
        · exact .inr (by rw [hshort, (List.cons.inj hopen).1])
  have hcontainer : w.isContainer = true := (isContainer_iff_opens hscan).2 hopens
  have hfurther := read_append_of_container hcs hcontainer cut
  rw [h, if_neg hcut] at hfurther
  cases hfurther

/-- Blanks before a container are passed over. -/
theorem read_blank_append {blanks : List Char} (hblank : ∀ c ∈ blanks, isBlank c = true)
    (h : read cs = .ok v) (hv : v.isContainer = true) : read (blanks ++ cs) = .ok v := by
  rcases read_eq_ok_iff.1 h with ⟨rest, hscan, hrest⟩
  have hle : enoughFuel cs ≤ enoughFuel (blanks ++ cs) := by
    simp only [enoughFuel, List.length_append]
    omega
  have hlonger := (readsFurther _).value hscan (.inr hv) [] hle
  rw [List.append_nil, List.append_nil] at hlonger
  refine read_eq_ok_iff.2 ⟨rest, ?_, hrest⟩
  rw [scanValue_congr (skipBlanks_append_of_blank hblank cs)]
  exact hlonger

/-! ## Blanks as bytes -/

/-- The bytes of blanks. -/
def isBlankByte (b : UInt8) : Bool :=
  b = 0x20 || b = 0x09 || b = 0x0A || b = 0x0D

theorem utf8EncodeChar_of_blank {c : Char} (h : isBlank c = true) :
    ∃ b, String.utf8EncodeChar c = [b] ∧ isBlankByte b = true := by
  simp only [isBlank, Bool.or_eq_true, decide_eq_true_eq] at h
  rcases h with ((rfl | rfl) | rfl) | rfl <;> exact ⟨_, rfl, rfl⟩

theorem exists_blank_of_byte {b : UInt8} (h : isBlankByte b = true) :
    ∃ c, String.utf8EncodeChar c = [b] ∧ isBlank c = true := by
  simp only [isBlankByte, Bool.or_eq_true, decide_eq_true_eq] at h
  rcases h with ((rfl | rfl) | rfl) | rfl
  · exact ⟨' ', rfl, rfl⟩
  · exact ⟨'\t', rfl, rfl⟩
  · exact ⟨'\n', rfl, rfl⟩
  · exact ⟨'\r', rfl, rfl⟩

theorem isBlankByte_of_mem_utf8 {s : String} (h : ∀ c ∈ s.toList, isBlank c = true) :
    ∀ b ∈ Text.utf8 s, isBlankByte b = true := by
  intro b hb
  rw [← String.ofList_toList (s := s), Text.utf8_ofList] at hb
  rcases List.mem_flatMap.1 hb with ⟨c, hc, hbc⟩
  rcases utf8EncodeChar_of_blank (h c hc) with ⟨b', hb', hblank⟩
  rw [hb', List.mem_singleton] at hbc
  rwa [hbc]

/-- Blank bytes are a blank text. -/
theorem exists_blanks_of_bytes {bytes : Bytes} (h : ∀ b ∈ bytes, isBlankByte b = true) :
    ∃ blanks : String, Text.utf8 blanks = bytes ∧ ∀ c ∈ blanks.toList, isBlank c = true := by
  induction bytes with
  | nil => exact ⟨"", rfl, by simp⟩
  | cons b bytes ih =>
      rcases ih fun b' hb' => h b' (List.mem_cons_of_mem b hb') with ⟨blanks, hutf8, hblanks⟩
      rcases exists_blank_of_byte (h b List.mem_cons_self) with ⟨c, hc, hblank⟩
      refine ⟨String.ofList (c :: blanks.toList), ?_, ?_⟩
      · rw [← String.ofList_toList (s := blanks), Text.utf8_ofList] at hutf8
        rw [Text.utf8_ofList, List.flatMap_cons, hc, hutf8]
        rfl
      · simpa [hblank] using hblanks

/-! ## Bodies -/

/-- The bytes that read as a value are those of the texts that do. -/
theorem readBytes_eq_ok_iff {bytes : Bytes} :
    readBytes bytes = .ok v ↔
      ∃ text : String, bytes = Text.utf8 text ∧ readString text = .ok v := by
  constructor
  · intro h
    cases htext : Text.ofUtf8? bytes with
    | none => simp [readBytes, htext] at h
    | some text =>
        refine ⟨text, Text.ofUtf8?_eq_some_iff.1 htext, ?_⟩
        simpa [readBytes, htext] using h
  · rintro ⟨text, rfl, h⟩
    rw [readBytes_utf8, h]

variable {text : String}

/-- Bytes of a container that are cut off before its last sign are not JSON. -/
theorem readBytes_ne_ok_of_cut {bytes cut : Bytes} (h : readString text = .ok v)
    (hv : v.isContainer = true) (hlast : ∃ c, text.toList.getLast? = some c ∧ isBlank c = false)
    (hbytes : bytes ++ cut = Text.utf8 text) (hcut : cut ≠ []) : readBytes bytes ≠ .ok w := by
  intro hread
  rcases readBytes_eq_ok_iff.1 hread with ⟨front, rfl, hfront⟩
  rcases Text.exists_append_of_utf8 hbytes.symm with ⟨back, rfl, rfl⟩
  have hwhole : read (front.toList ++ back.toList) = .ok v := by
    simpa [readString] using h
  have hback : back.toList ≠ [] := by
    intro hempty
    refine hcut ?_
    rw [← String.ofList_toList (s := back), hempty]
    rfl
  -- The last sign of the text stands in what is cut off.
  have hsign : skipBlanks back.toList ≠ [] := by
    intro hnil
    rcases hlast with ⟨c, hc, hblank⟩
    have hmem : c ∈ back.toList := by
      rw [String.toList_append, List.getLast?_append,
        List.getLast?_eq_some_getLast hback] at hc
      cases hc
      exact List.getLast_mem hback
    rw [skipBlanks_eq_nil_iff.1 hnil c hmem] at hblank
    cases hblank
  exact read_ne_ok_of_cut hwhole hv hsign hfront

/-- Bytes behind a container that are not all blank spoil it. -/
theorem readBytes_append_ne_ok {more : Bytes} (h : readString text = .ok v)
    (hv : v.isContainer = true) (hmore : ∃ b ∈ more, isBlankByte b = false) :
    readBytes (Text.utf8 text ++ more) ≠ .ok w := by
  intro hread
  rcases readBytes_eq_ok_iff.1 hread with ⟨whole, hwhole, hreadWhole⟩
  rcases Text.exists_append_of_utf8 hwhole.symm with ⟨back, rfl, rfl⟩
  have hback : skipBlanks back.toList ≠ [] := by
    intro hnil
    rcases hmore with ⟨b, hb, hblank⟩
    rw [isBlankByte_of_mem_utf8 (skipBlanks_eq_nil_iff.1 hnil) b hb] at hblank
    cases hblank
  have hfurther := read_append_of_container h hv back.toList
  rw [if_neg hback, ← String.toList_append] at hfurther
  rw [readString, hfurther] at hreadWhole
  cases hreadWhole

/-- Blank bytes around a container change nothing. -/
theorem readBytes_blank_append {before after : Bytes} (h : readString text = .ok v)
    (hv : v.isContainer = true) (hbefore : ∀ b ∈ before, isBlankByte b = true)
    (hafter : ∀ b ∈ after, isBlankByte b = true) :
    readBytes (before ++ Text.utf8 text ++ after) = .ok v := by
  rcases exists_blanks_of_bytes hbefore with ⟨front, rfl, hfront⟩
  rcases exists_blanks_of_bytes hafter with ⟨back, rfl, hback⟩
  refine readBytes_eq_ok_iff.2 ⟨front ++ text ++ back, ?_, ?_⟩
  · rw [Text.utf8_append, Text.utf8_append]
  · rw [readString, String.toList_append, String.toList_append,
      read_append_of_container (read_blank_append hfront h hv) hv,
      if_pos (skipBlanks_eq_nil_iff.2 hback)]

end Json
end RpcHost
