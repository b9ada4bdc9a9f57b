import RpcHost.Proofs.Json.Filling
import RpcHost.Proofs.Json.Parts

/-!
# Records from text and from values

A record that is read straight from a text has the slots that it has when the text is read as a
value first, as long as no key of the record stands twice: `scanRecord_of_scanAny`. What a field
makes of its part of the text is left open. It only has to agree with what the field takes from the
value that is there (`Takes`).
-/

namespace RpcHost
namespace Json

variable {α : Type} {depth : Nat} {cs rest : List Char} {v : Value}

/-! ## Fields -/

/-- Reading a field from this text comes to what the field takes from the value that is there. -/
def Takes (scan : FieldScan) (take : Value → Option Value) (cs : List Char) : Prop :=
  ∀ (depth : Nat) (rest : List Char) (v : Value), scanAny depth cs = .ok (v, rest) →
    (scan depth cs).toOption = (take v).map fun w => (w, rest)

theorem Takes.ok {scan : FieldScan} {take : Value → Option Value} (h : Takes scan take cs)
    (hvalue : scanAny depth cs = .ok (v, rest)) {w : Value} (htake : take v = some w) :
    scan depth cs = .ok (w, rest) := by
  refine toOption_eq_some_iff.1 ?_
  simp [h _ _ _ hvalue, htake]

theorem Takes.error {scan : FieldScan} {take : Value → Option Value} (h : Takes scan take cs)
    (hvalue : scanAny depth cs = .ok (v, rest)) (htake : take v = none) :
    ∃ e, scan depth cs = .error e := by
  refine toOption_eq_none_iff.1 ?_
  simp [h _ _ _ hvalue, htake]

theorem toOption_otherKind (cs : List Char) :
    (otherKind cs : Except ReadError α).toOption = none := by
  unfold otherKind
  split
  · rfl
  · rfl
  · split <;> rfl

theorem toOption_scanText_of_ne_quote (h : ∀ body, skipBlanks cs ≠ '"' :: body) :
    (scanText cs).toOption = none := by
  unfold scanText
  split
  · rename_i body hquote
    exact absurd hquote (h body)
  · exact toOption_otherKind _

theorem toOption_scanWord_of_not_start
    (h : ∀ c body, skipBlanks cs = c :: body → ¬ (c = '-' ∨ c.isDigit = true)) :
    (scanWord cs).toOption = none := by
  unfold scanWord
  split
  · rfl
  · rename_i c body hc
    rw [if_neg (h c body hc)]
    exact toOption_otherKind _

/-- A value is read as a container or without parts. -/
theorem container_or_scalarStep (h : scanAny depth cs = .ok (v, rest)) :
    (v.isContainer = true ∧ ∃ body, skipBlanks cs = '[' :: body ∨ skipBlanks cs = '{' :: body)
    ∨ ScalarStep (skipBlanks cs) v rest := by
  cases valueRead_of_scanAny h with
  | noItems hopen => exact .inl ⟨rfl, _, .inl hopen⟩
  | items hopen => exact .inl ⟨rfl, _, .inl hopen⟩
  | noMembers hopen => exact .inl ⟨rfl, _, .inr hopen⟩
  | members hopen => exact .inl ⟨rfl, _, .inr hopen⟩
  | scalar hscalar => exact .inr (scalarStep_of_ok hscalar)

theorem take_eq_none_of_container {kind : FieldKind} (hkind : kind ≠ .any)
    (hv : v.isContainer = true) : kind.take v = none := by
  cases kind <;> cases v <;> first | exact absurd rfl hkind | rfl | cases hv

theorem takes_text (cs : List Char) : Takes FieldKind.text.scan FieldKind.text.take cs := by
  intro depth rest v h
  -- A container is refused by its first character, and so is every scalar but a string.
  rcases container_or_scalarStep h with ⟨hv, body, hopen⟩ | hstep
  · rw [take_eq_none_of_container (by decide) hv]
    refine toOption_scanText_of_ne_quote ?_
    rcases hopen with hopen | hopen <;> simp [hopen]
  · generalize hskip : skipBlanks cs = t at hstep
    cases hstep with
    | string hscan =>
        refine toOption_eq_some_iff.2 ?_
        simp [FieldKind.scan, scanText, hskip, hscan, Except.map]
    | @number c body _ n hstart hscan =>
        refine toOption_scanText_of_ne_quote ?_
        rw [hskip]
        rintro body heq
        cases heq
        simp at hstart
    | _ => exact toOption_scanText_of_ne_quote (by simp [hskip])

theorem takes_word (cs : List Char) : Takes FieldKind.word.scan FieldKind.word.take cs := by
  intro depth rest v h
  rcases container_or_scalarStep h with ⟨hv, body, hopen⟩ | hstep
  · rw [take_eq_none_of_container (by decide) hv]
    refine toOption_scanWord_of_not_start ?_
    rcases hopen with hopen | hopen <;> simp [hopen]
  · generalize hskip : skipBlanks cs = t at hstep
    cases hstep with
    | @number c body _ n hstart hscan =>
        have hword : scanWord cs =
            if FieldKind.word.accepts (.number n) then .ok (.number n, rest)
            else .error .mismatched := by
          simp [scanWord, hskip, hstart, hscan, bind, Except.bind]
        cases haccepts : FieldKind.word.accepts (.number n) <;>
          simp [FieldKind.scan, FieldKind.take, hword, haccepts, Except.toOption]
    | _ => exact toOption_scanWord_of_not_start (by simp [hskip])

/-- A field of each kind reads what it accepts. -/
theorem takes_kind (kind : FieldKind) (cs : List Char) : Takes kind.scan kind.take cs := by
  cases kind with
  | text => exact takes_text cs
  | word => exact takes_word cs
  | any =>
      intro depth rest v h
      exact toOption_eq_some_iff.2 h

/-! ## Members -/

variable {scan : Field → FieldScan} {take : Field → Value → Option Value} {layout : Layout}

/-- The member under a key of the layout is put to its slot, and other members are passed over. -/
def putMember (scan : Field → FieldScan) (layout : Layout) (depth : Nat) (found : Slots)
    (key : String) (cs : List Char) : Except ReadError (Slots × List Char) :=
  match (layout.place? key).bind fun i => (layout[i]?).map fun f => (i, f) with
  | some (i, f) => (scan f depth cs).map fun (v, rest) => (found.set i (some v), rest)
  | none => (skip cs).map fun rest => (found, rest)

theorem scanFields_of_key {key : String} {colon : List Char} (hkey : scanKey cs = .ok (key, colon))
    (fuel : Nat) (found : Slots) :
    scanFields scan layout depth (fuel + 1) found cs =
      if (((layout.place? key).bind (found[·]?)).join).isSome then .error .mismatched
      else
        (putMember scan layout depth found key colon).bind fun (found, rest) =>
          match skipBlanks rest with
          | [] => .error .ended
          | '}' :: rest => if complete layout found then .ok (found, rest) else .error .mismatched
          | ',' :: rest => scanFields scan layout depth fuel found (skipBlanks rest)
          | _ :: _ => .error .malformed := by
  rcases scanKey_eq_ok_iff.1 hkey with ⟨body, after, rfl, hstring, hcolon⟩
  simp only [scanFields, bind, Except.bind, hstring, hcolon, putMember]
  cases (layout.place? key).bind fun i => (layout[i]?).map fun f => (i, f) <;> rfl

@[simp] theorem slotsOf_nil (layout : Layout) :
    slotsOf layout [] = List.replicate layout.length none := by
  simp [slotsOf, List.map_const']

/-- The place of a name is that of the one field with this name. -/
theorem place?_of_mem (hnodup : (layout.map (·.name)).Nodup) {f : Field} (hf : f ∈ layout) :
    ∃ i, layout.place? f.name = some i ∧ layout[i]? = some f := by
  cases hplace : layout.place? f.name with
  | none =>
      have hnone := List.findIdx?_eq_none_iff.1 hplace f hf
      simp at hnone
  | some i =>
      rcases List.findIdx?_eq_some_iff_getElem.1 hplace with ⟨hi, hname, _⟩
      have hsame : layout[i] = f :=
        List.inj_on_of_nodup_map hnodup (List.getElem_mem hi) hf (by simpa using hname)
      exact ⟨i, rfl, by rw [List.getElem?_eq_getElem hi, hsame]⟩

theorem place?_of_not_mem {key : String} (h : ∀ f ∈ layout, f.name ≠ key) :
    layout.place? key = none := by
  refine List.findIdx?_eq_none_iff.2 ?_
  intro f hf
  simpa using h f hf

theorem getElem?_slotsOf {f : Field} {i : Nat} (hi : layout[i]? = some f)
    (taken : List (String × Value)) :
    (slotsOf layout taken)[i]? = some (Entries.find? f.name taken) := by
  simp [slotsOf, hi]

theorem set_slotsOf (hnodup : (layout.map (·.name)).Nodup) {f : Field} {i : Nat}
    (hi : layout[i]? = some f) (taken : List (String × Value)) (w : Value) :
    (slotsOf layout taken).set i (some w) = slotsOf layout ((f.name, w) :: taken) := by
  refine List.ext_getElem? ?_
  intro j
  have hlength : i < (slotsOf layout taken).length := by
    simpa [slotsOf] using (List.getElem?_eq_some_iff.1 hi).1
  by_cases hij : i = j
  · subst hij
    rw [List.getElem?_set_self hlength, getElem?_slotsOf hi]
    simp
  · rw [List.getElem?_set_ne hij]
    cases hj : layout[j]? with
    | none => simp [slotsOf, hj]
    | some g =>
        -- Another place has another name.
        have hname : g.name ≠ f.name := by
          intro hname
          have hnames : i < (layout.map (·.name)).length := by
            simpa [slotsOf] using hlength
          refine hij ((List.getElem?_inj hnames hnodup).1 ?_)
          simp [hi, hj, hname]
        rw [getElem?_slotsOf hj, getElem?_slotsOf hj]
        simp [hname]

/-- What a member does to the slots is what it does to the fields that have taken something. -/
theorem putMember_step (hnodup : (layout.map (·.name)).Nodup) {key : String}
    {colon after : List Char} (hvalue : scanAny depth colon = .ok (v, after))
    (htakes : ∀ f ∈ layout, f.name = key → Takes (scan f) (take f) colon)
    {ms taken : List (String × Value)}
    (hcounts : ∀ f ∈ layout, (Entries.keys ((key, v) :: ms)).count f.name ≤ 1)
    (htaken : ∀ f ∈ layout, (Entries.find? f.name taken).isSome →
      f.name ∉ Entries.keys ((key, v) :: ms)) :
    (((layout.place? key).bind ((slotsOf layout taken)[·]?)).join).isSome = false ∧
    (((∃ e, putMember scan layout depth (slotsOf layout taken) key colon = .error e)
        ∧ settled take layout taken ((key, v) :: ms) = none)
      ∨ ∃ taken', putMember scan layout depth (slotsOf layout taken) key colon =
            .ok (slotsOf layout taken', after)
          ∧ settled take layout taken ((key, v) :: ms) = settled take layout taken' ms
          ∧ ∀ f ∈ layout, (Entries.find? f.name taken').isSome → f.name ∉ Entries.keys ms) := by
  -- Either the key is that of one field, which is still free, or no field has it.
  by_cases hthere : ∃ f ∈ layout, f.name = key
  · rcases hthere with ⟨f, hf, rfl⟩
    rcases place?_of_mem hnodup hf with ⟨i, hplace, hi⟩
    have hnone : Entries.find? f.name taken = none := by
      cases hfound : Entries.find? f.name taken with
      | none => rfl
      | some w => exact absurd List.mem_cons_self (htaken f hf (by simp [hfound]))
    have hput : putMember scan layout depth (slotsOf layout taken) f.name colon =
        (scan f depth colon).map fun (v, rest) =>
          ((slotsOf layout taken).set i (some v), rest) := by
      simp [putMember, hplace, hi]
    refine ⟨by simp [hplace, getElem?_slotsOf hi, hnone], ?_⟩
    cases htake : take f v with
    | none =>
        rcases (htakes f hf rfl).error hvalue htake with ⟨e, herror⟩
        exact .inl ⟨⟨e, by rw [hput, herror]; rfl⟩, settled_cons_of_refused hf rfl hnone htake⟩
    | some w =>
        refine .inr ⟨(f.name, w) :: taken, ?_, settled_cons_of_taken hnodup hf rfl hnone htake, ?_⟩
        · rw [hput, (htakes f hf rfl).ok hvalue htake, ← set_slotsOf hnodup hi]
          rfl
        · intro g hg hsome hmem
          by_cases hname : g.name = f.name
          · -- The name stands here and would stand among the rest again.
            have hcount := hcounts f hf
            have hkeys : Entries.keys ((f.name, v) :: ms) = f.name :: Entries.keys ms := rfl
            rw [hkeys, List.count_cons_self] at hcount
            have hpos := List.count_pos_iff.2 (hname ▸ hmem)
            omega
          · have hsome : (Entries.find? g.name taken).isSome := by
              simpa [hname] using hsome
            exact htaken g hg hsome (List.mem_cons_of_mem f.name hmem)
  · have hother : ∀ f ∈ layout, f.name ≠ key := by
      intro f hf hname
      exact hthere ⟨f, hf, hname⟩
    have hplace := place?_of_not_mem hother
    refine ⟨by simp [hplace], .inr ⟨taken, ?_, settled_cons_of_not_mem hother, ?_⟩⟩
    · simp [putMember, hplace, skip_of_scanValue hvalue, Except.map]
    · intro f hf hsome hmem
      exact htaken f hf hsome (List.mem_cons_of_mem key hmem)

/-- The members that are left of a record fill the slots that are still free. -/
theorem toOption_scanFields (hnodup : (layout.map (·.name)).Nodup) {parts : List (String × Part)}
    (h : MembersRead depth cs parts rest)
    (htakes : ∀ m ∈ parts, ∀ f ∈ layout, f.name = m.1 → Takes (scan f) (take f) m.2.text)
    (hcounts : ∀ f ∈ layout, (Entries.keys (memberValues parts)).count f.name ≤ 1)
    {taken : List (String × Value)}
    (htaken : ∀ f ∈ layout, (Entries.find? f.name taken).isSome →
      f.name ∉ Entries.keys (memberValues parts))
    {fuel : Nat} (hfuel : cs.length < fuel) :
    (scanFields scan layout depth fuel (slotsOf layout taken) (skipBlanks cs)).toOption =
      (settled take layout taken (memberValues parts)).map fun found => (found, rest) := by
  -- Along the members; the fields that have taken something grow with each of them.
  induction h generalizing taken fuel with
  | @last cs colon after rest key v hkey hvalue hclose =>
      obtain ⟨fuel, rfl⟩ : ∃ n, fuel = n + 1 := ⟨fuel - 1, by omega⟩
      rcases putMember_step hnodup hvalue (htakes _ List.mem_cons_self) hcounts htaken with
        ⟨hfree, ⟨⟨e, hput⟩, hsettled⟩ | ⟨taken', hput, hsettled, _⟩⟩
      -- A refused value ends the reading; else the brace shows whether a field is missing.
      · have hnone : settled take layout taken (memberValues ((key, ⟨colon, v⟩) :: _)) = none :=
          hsettled
        rw [scanFields_of_key hkey, hfree, hput, hnone]
        rfl
      · rw [scanFields_of_key hkey, hfree, hput]
        have hrest : settled take layout taken (memberValues [(key, ⟨colon, v⟩)]) = _ :=
          hsettled.trans (settled_nil taken')
        rw [hrest]
        simp only [Bool.false_eq_true, if_false, Except.bind, hclose]
        cases complete layout (slotsOf layout taken') <;> rfl
  | @next cs colon after more rest key v parts hkey hvalue hcomma hmore ih =>
      obtain ⟨fuel, rfl⟩ : ∃ n, fuel = n + 1 := ⟨fuel - 1, by omega⟩
      rcases putMember_step hnodup hvalue (htakes _ List.mem_cons_self) hcounts htaken with
        ⟨hfree, ⟨⟨e, hput⟩, hsettled⟩ | ⟨taken', hput, hsettled, htaken'⟩⟩
      · have hnone : settled take layout taken (memberValues ((key, ⟨colon, v⟩) :: _)) = none :=
          hsettled
        rw [scanFields_of_key hkey, hfree, hput, hnone]
        rfl
      · have hlength : more.length < fuel := by
          have hkeyLength := (skipKey_of_scanKey hkey).2
          have hblanks := length_skipBlanks cs
          have hmoreLength := (afterComma?_of_comma hvalue hcomma).2
          omega
        have hothers : ∀ f ∈ layout, (Entries.keys (memberValues parts)).count f.name ≤ 1 :=
          fun f hf => (List.count_le_count_cons ..).trans (hcounts f hf)
        rw [scanFields_of_key hkey, hfree, hput]
        simp only [Bool.false_eq_true, if_false, Except.bind, hcomma]
        exact (ih (fun m hm => htakes m (List.mem_cons_of_mem _ hm)) hothers htaken' hlength).trans
          (congrArg _ hsettled).symm

/-! ## Places -/

/-- The parts that are left of an array behind one of its items. -/
inductive PartsLeft (depth : Nat) : List Char → List Part → List Char → Prop where
  | closed {after rest : List Char} (hclose : skipBlanks after = ']' :: rest) :
      PartsLeft depth after [] rest
  | more {after more rest : List Char} {parts : List Part} (hcomma : skipBlanks after = ',' :: more)
      (hparts : ItemsRead depth more parts rest) : PartsLeft depth after parts rest

theorem ItemsRead.head {parts : List Part} (h : ItemsRead depth cs parts rest) :
    ∃ v after others, parts = ⟨cs, v⟩ :: others ∧ scanAny depth cs = .ok (v, after)
      ∧ PartsLeft depth after others rest := by
  cases h with
  | last hitem hclose => exact ⟨_, _, _, rfl, hitem, .closed hclose⟩
  | next hitem hcomma hmore => exact ⟨_, _, _, rfl, hitem, .more hcomma hmore⟩

theorem scanAny_skipBlanks (h : scanAny depth cs = .ok (v, rest)) :
    scanAny depth (skipBlanks cs) = .ok (v, rest) := by
  have hsame : scanValue (enoughFuel cs) depth (skipBlanks cs) = .ok (v, rest) :=
    (scanValue_congr (skipBlanks_skipBlanks cs)).trans h
  exact scanAny_of_scanValue hsame

/-- One item goes to the first field, and the others to the other fields. -/
theorem toOption_scanPlaces_next {f : Field} {after : List Char}
    (htakes : Takes (scan f) (take f) cs) (hitem : scanAny depth cs = .ok (v, after))
    {vs : List Value}
    (hothers : (scanPlaces scan depth layout false after).toOption =
      (filled take layout (.array vs)).map fun found => (found, rest)) :
    (scanPlaces.next scan depth f layout cs).toOption =
      (filled take (f :: layout) (.array (v :: vs))).map fun found => (found, rest) := by
  rw [filled_array_cons]
  cases htake : take f v with
  | none =>
      rcases htakes.error hitem htake with ⟨e, herror⟩
      simp [scanPlaces.next, herror, Except.toOption]
  | some w =>
      have hscan := htakes.ok hitem htake
      cases hfilled : filled take layout (.array vs) with
      | none =>
          rw [hfilled] at hothers
          rcases toOption_eq_none_iff.1 hothers with ⟨e, herror⟩
          simp [scanPlaces.next, hscan, herror, Except.toOption]
      | some found =>
          rw [hfilled] at hothers
          have hok := toOption_eq_some_iff.1 hothers
          simp [scanPlaces.next, hscan, hok, Except.toOption]

theorem toOption_scanPlaces_closed {first : Bool} (hclose : skipBlanks cs = ']' :: rest) :
    (scanPlaces scan depth layout first cs).toOption =
      (filled take layout (.array [])).map fun found => (found, rest) := by
  rw [filled_array_nil]
  cases layout with
  | nil => simp [scanPlaces, hclose, Except.toOption]
  | cons f layout =>
      cases hall : (f :: layout).all (!·.required) <;>
        simp [scanPlaces, hclose, hall, Except.toOption, List.replicate_succ]

theorem scanPlaces_first (hitem : scanAny depth cs = .ok (v, rest)) (f : Field) :
    scanPlaces scan depth (f :: layout) true cs =
      scanPlaces.next scan depth f layout (skipBlanks cs) := by
  rcases open_of_scanAny hitem with ⟨hend, hclose⟩
  unfold scanPlaces
  split
  · rename_i hnil
    exact absurd hnil hend
  · rename_i after hafter
    exact absurd hafter (hclose after)
  · rename_i hcs
    rw [if_pos rfl, hcs]

theorem scanPlaces_comma {more : List Char} (hcomma : skipBlanks cs = ',' :: more)
    (hitem : scanAny depth more = .ok (v, rest)) (f : Field) :
    scanPlaces scan depth (f :: layout) false cs =
      scanPlaces.next scan depth f layout (skipBlanks more) := by
  rcases open_of_scanAny hitem with ⟨hend, hclose⟩
  unfold scanPlaces
  rw [hcomma]
  split
  · rename_i hnil
    cases hnil
  · rename_i hbracket
    cases hbracket
  · rename_i hcs
    cases hcs
    rw [if_neg Bool.false_ne_true, if_pos rfl]
    split
    · rename_i hnil
      exact absurd hnil hend
    · rename_i after hafter
      exact absurd hafter (hclose after)
    · rfl

theorem scanPlaces_skipBlanks (first : Bool) (cs : List Char) :
    scanPlaces scan depth layout first (skipBlanks cs) = scanPlaces scan depth layout first cs := by
  cases layout <;> rw [scanPlaces, scanPlaces, skipBlanks_skipBlanks]

theorem toOption_scanPlaces_left {after : List Char} {parts : List Part}
    (h : PartsLeft depth after parts rest)
    (htakes : ∀ (i : Nat) f p, layout[i]? = some f → parts[i]? = some p →
      Takes (scan f) (take f) (skipBlanks p.text)) :
    (scanPlaces scan depth layout false after).toOption =
      (filled take layout (.array (parts.map (·.value)))).map fun found => (found, rest) := by
  -- The layout and the items get shorter together; whichever ends first decides.
  induction layout generalizing after parts with
  | nil =>
      cases h with
      | closed hclose => exact toOption_scanPlaces_closed hclose
      | more hcomma hparts =>
          rcases hparts.head with ⟨v, after', others, rfl, _, _⟩
          simp [scanPlaces, hcomma, filled_array_too_long, Except.toOption]
  | cons f layout ih =>
      cases h with
      | closed hclose => exact toOption_scanPlaces_closed hclose
      | more hcomma hparts =>
          rcases hparts.head with ⟨v, after', others, rfl, hitem, hleft⟩
          have hothers := ih hleft fun i g p hg hp => htakes (i + 1) g p hg hp
          rw [scanPlaces_comma hcomma hitem]
          exact toOption_scanPlaces_next (htakes 0 f _ rfl rfl) (scanAny_skipBlanks hitem) hothers

theorem toOption_scanPlaces {parts : List Part} (h : ItemsRead depth cs parts rest)
    (htakes : ∀ (i : Nat) f p, layout[i]? = some f → parts[i]? = some p →
      Takes (scan f) (take f) (skipBlanks p.text)) :
    (scanPlaces scan depth layout true cs).toOption =
      (filled take layout (.array (parts.map (·.value)))).map fun found => (found, rest) := by
  rcases h.head with ⟨v, after, others, rfl, hitem, hleft⟩
  cases layout with
  | nil =>
      rcases open_of_scanAny hitem with ⟨hend, hclose⟩
      rw [List.map_cons, filled_array_too_long]
      unfold scanPlaces
      split
      · rfl
      · rename_i after hafter
        exact absurd hafter (hclose after)
      · rfl
  | cons f layout =>
      have hothers := toOption_scanPlaces_left hleft fun i g p hg hp => htakes (i + 1) g p hg hp
      rw [scanPlaces_first hitem]
      exact toOption_scanPlaces_next (htakes 0 f _ rfl rfl) (scanAny_skipBlanks hitem) hothers

/-! ## Records -/

theorem toOption_scanBody (hnodup : (layout.map (·.name)).Nodup) {body : List Char}
    {parts : List (String × Part)} (hopen : skipBlanks cs = '{' :: body)
    (hparts : MembersRead depth body parts rest) (hrepeats : NoRepeats layout cs)
    (hmembers : ∀ m ∈ memberTexts cs, ∀ f ∈ layout, f.name = m.1 → Takes (scan f) (take f) m.2) :
    (scanFields scan layout depth ((skipBlanks body).length + 1)
        (List.replicate layout.length none) (skipBlanks body)).toOption =
      (filled take layout (.object (Entries.ofList (memberValues parts)))).map
        fun found => (found, rest) := by
  have htexts := memberTexts_of_membersRead hopen hparts
  have hkeys : Entries.keys (memberValues parts) = (memberTexts cs).map (·.1) := by
    simp [htexts, Entries.keys, memberValues, Function.comp_def]
  have hcounts : ∀ f ∈ layout, (Entries.keys (memberValues parts)).count f.name ≤ 1 := by
    rw [hkeys]
    exact hrepeats
  have htakes : ∀ m ∈ parts, ∀ f ∈ layout, f.name = m.1 → Takes (scan f) (take f) m.2.text := by
    intro m hm
    refine hmembers (m.1, m.2.text) ?_
    rw [htexts]
    exact List.mem_map_of_mem hm
  have hbody : MembersRead depth (skipBlanks body) parts rest :=
    membersRead_congr (skipBlanks_skipBlanks body).symm hparts
  have htaken : ∀ f ∈ layout, (Entries.find? f.name ([] : Members)).isSome →
      f.name ∉ Entries.keys (memberValues parts) := by
    intro f _ hfound
    cases hfound
  have hfields := toOption_scanFields hnodup hbody htakes hcounts htaken (Nat.lt_succ_self _)
  rw [skipBlanks_skipBlanks, slotsOf_nil, settled_nil_eq_filled hcounts] at hfields
  exact hfields

/-- Straight from the text or through the value that it reads as, a record has the same slots. -/
theorem scanRecord_of_scanAny (hnodup : (layout.map (·.name)).Nodup)
    (h : scanAny depth cs = .ok (v, rest)) (hrepeats : NoRepeats layout cs)
    (hmembers : ∀ m ∈ memberTexts cs, ∀ f ∈ layout, f.name = m.1 → Takes (scan f) (take f) m.2)
    (hitems : ∀ (i : Nat) f t, layout[i]? = some f → (itemTexts cs)[i]? = some t →
      Takes (scan f) (take f) (skipBlanks t)) :
    (scanRecord scan layout depth cs).toOption =
      (filled take layout v).map fun found => (found, rest) := by
  cases valueRead_of_scanAny h with
  | noItems hopen hdepth hclose =>
      simp only [scanRecord, hopen, hdepth, if_false]
      exact toOption_scanPlaces_closed hclose
  | @items body _ parts hopen hdepth hparts =>
      simp only [scanRecord, hopen, hdepth, if_false]
      rw [← scanPlaces_skipBlanks]
      refine toOption_scanPlaces hparts ?_
      intro i f p hf hp
      refine hitems i f p.text hf ?_
      simp [itemTexts_of_itemsRead hopen hparts, hp]
  | @noMembers body _ hopen hdepth hclose =>
      have hcounts : ∀ f ∈ layout, (Entries.keys ([] : Members)).count f.name ≤ 1 :=
        fun _ _ => Nat.zero_le 1
      have hnone : filled take layout (.object []) =
          if complete layout (slotsOf layout []) then some (slotsOf layout []) else none :=
        (settled_nil_eq_filled hcounts).symm.trans (settled_nil [])
      simp only [scanRecord, hopen, hdepth, if_false, hclose, hnone, slotsOf_nil]
      cases complete layout (List.replicate layout.length none) <;> rfl
  | @members body _ parts hopen hdepth hparts =>
      have hfields := toOption_scanBody hnodup hopen hparts hrepeats hmembers
      -- The other branch of the reader is for records without members.
      have hquote : ∀ after, skipBlanks body ≠ '}' :: after := by
        intro after hclose
        have hkey : ∀ key colon, scanKey (skipBlanks body) ≠ .ok (key, colon) := by
          intro key colon
          simp [hclose, scanKey]
        cases hparts with
        | last hfound => exact hkey _ _ hfound
        | next hfound => exact hkey _ _ hfound
      simpa only [scanRecord, hopen, hdepth, if_false] using hfields
  | scalar hscalar =>
      have hv := isContainer_of_scanScalar hscalar
      have hnone : filled take layout v = none := by
        cases v <;> first | rfl | cases hv
      rw [hnone]
      unfold scanRecord
      split
      · rfl
      · rename_i hopen
        simp [hopen, scanScalar] at hscalar
      · rename_i hopen
        simp [hopen, scanScalar] at hscalar
      · exact toOption_otherKind _

end Json
end RpcHost
