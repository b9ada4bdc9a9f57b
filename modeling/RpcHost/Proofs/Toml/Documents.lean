import RpcHost.Proofs.Entries
import RpcHost.Proofs.Toml.Scalars
import RpcHost.Toml.Statements

/-!
# Documents survive being written

Sections with bare names and keys, none of them twice, are read back from what is written of them:
each section as a table, with the scalars of its statements (`read_write`). The lines of the text
give the statements back (`statements_write`), and statements of sections make a document in any
order (`run_sections`).
-/

namespace RpcHost
namespace Toml

variable {rest : List Char} {stmts : List Statement} {d d' : Draft} {path : Path}

/-! ## Keys -/

/-- A name that is written without quotes. -/
def IsBare (name : String) : Prop :=
  name.toList ≠ [] ∧ ∀ c ∈ name.toList, isBareChar c = true

instance (name : String) : Decidable (IsBare name) :=
  decidable_of_iff (name.toList ≠ [] ∧ name.toList.all isBareChar = true)
    (and_congr_right' List.all_eq_true)

/-- What a bare character is not: a sign of its own meaning. -/
theorem ne_of_isBareChar {c : Char} (h : isBareChar c = true) :
    isBlank c = false ∧ c ≠ '"' ∧ c ≠ '\'' ∧ c ≠ '[' ∧ c ≠ '#' ∧ c ≠ '\n' ∧ c ≠ '\r' := by
  have hne : ∀ d, isBareChar d = false → c ≠ d := by
    rintro d hd rfl
    rw [h] at hd
    cases hd
  refine ⟨?_, hne _ rfl, hne _ rfl, hne _ rfl, hne _ rfl, hne _ rfl, hne _ rfl⟩
  simp [isBlank, hne ' ' rfl, hne '\t' rfl]

theorem IsBare.exists_cons {name : String} (h : IsBare name) :
    ∃ c cs, name.toList = c :: cs ∧ isBareChar c = true := by
  rcases h with ⟨hne, hall⟩
  cases hname : name.toList with
  | nil => exact absurd hname hne
  | cons c cs => exact ⟨c, cs, rfl, hall c (by simp [hname])⟩

theorem readName_of_bare {name : String} (h : IsBare name)
    (hrest : ∀ c ∈ rest.head?, isBareChar c = false) :
    readName (name.toList ++ rest) = some (name, rest) := by
  rcases h.exists_cons with ⟨c, cs, hname, hc⟩
  rcases ne_of_isBareChar hc with ⟨_, hdouble, hsingle, _⟩
  have hnone : rest.takeWhile isBareChar = [] ∧ rest.dropWhile isBareChar = rest := by
    cases rest with
    | nil => exact ⟨rfl, rfl⟩
    | cons d rest =>
        have hd : isBareChar d = false := hrest d rfl
        simp [hd]
  have htake : (name.toList ++ rest).takeWhile isBareChar = name.toList := by
    rw [List.takeWhile_append_of_pos h.2, hnone.1, List.append_nil]
  have hdrop : (name.toList ++ rest).dropWhile isBareChar = rest := by
    rw [List.dropWhile_append_of_pos h.2, hnone.2]
  have hofList : String.ofList (c :: cs) = name := by
    rw [← hname, String.ofList_toList]
  rw [hname, List.cons_append] at htake hdrop ⊢
  rw [readName, htake]
  · simp only [hdrop, hofList]
  · intro left heq
    exact hdouble (List.cons.inj heq).1
  · intro left heq
    exact hsingle (List.cons.inj heq).1

theorem readKey_of_bare {name : String} (h : IsBare name)
    (hrest : ∀ c ∈ rest.head?, isBareChar c = false)
    (hdot : ∀ more, skipBlanks rest ≠ '.' :: more) :
    readKey (name.toList ++ rest) = some ([name], skipBlanks rest) := by
  rcases h.exists_cons with ⟨c, cs, hname, hc⟩
  have hskip : skipBlanks (name.toList ++ rest) = name.toList ++ rest := by
    rw [hname, List.cons_append, skipBlanks, List.dropWhile_cons_of_neg]
    simp [(ne_of_isBareChar hc).1]
  have hnames : ∀ fuel, readNames (fuel + 1) (name.toList ++ rest) =
      some ([name], skipBlanks rest) := by
    intro fuel
    rw [readNames, hskip, readName_of_bare h hrest]
    simp only [bind, Option.bind]
    rfl
  rw [readKey, hnames]
  rfl

/-! ## Statements -/

@[simp] theorem endStatement_lineFeed (rest : List Char) :
    endStatement ('\n' :: rest) = some rest :=
  rfl

theorem readStatement_header {name : String} (h : IsBare name) (rest : List Char) :
    readStatement ('[' :: (name.toList ++ ']' :: '\n' :: rest)) = some (.table [name], rest) := by
  have hkey : readKey (name.toList ++ ']' :: '\n' :: rest) = some ([name], ']' :: '\n' :: rest) :=
    readKey_of_bare h (by simp [isBareChar]) (by simp [skipBlanks, isBlank])
  rcases h.exists_cons with ⟨c, cs, hname, hc⟩
  have hbracket : c ≠ '[' := (ne_of_isBareChar hc).2.2.2.1
  rw [hname, List.cons_append] at hkey ⊢
  rw [readStatement]
  · simp [hkey, readChar]
  · intro left heq
    exact hbracket (List.cons.inj heq).1

theorem readStatement_assign {key : String} (h : IsBare key) {s : Scalar} {text : String}
    (htext : s.text? = some text) (rest : List Char) :
    readStatement (key.toList ++ ' ' :: '=' :: ' ' :: (text.toList ++ '\n' :: rest)) =
      some (.assign [key] s.toValue, rest) := by
  have hkey : readKey (key.toList ++ ' ' :: '=' :: ' ' :: (text.toList ++ '\n' :: rest)) =
      some ([key], '=' :: ' ' :: (text.toList ++ '\n' :: rest)) :=
    readKey_of_bare h (by simp [isBareChar]) (by simp [skipBlanks, isBlank])
  have hvalue := fun fuel => readValue_scalar htext fuel greatestLevels rest
  rcases h.exists_cons with ⟨c, cs, hkeyList, hc⟩
  have hbracket : c ≠ '[' := (ne_of_isBareChar hc).2.2.2.1
  rw [hkeyList, List.cons_append] at hkey ⊢
  rw [readStatement]
  · simp [hkey, readChar, hvalue]
  · intro left heq
    exact hbracket (List.cons.inj heq).1
  · intro left heq
    exact hbracket (List.cons.inj heq).1

/-! ## Following the lines -/

/-- The text has these statements. -/
def Reads (cs : List Char) (stmts : List Statement) : Prop :=
  ∀ fuel, cs.length < fuel → readStatements fuel cs = some stmts

theorem reads_end : Reads [] [] := by
  intro fuel hfuel
  cases fuel with
  | zero => omega
  | succ fuel => rfl

theorem reads_blankLine_iff : Reads ('\n' :: rest) stmts ↔ Reads rest stmts := by
  have hstep : ∀ fuel, readStatements (fuel + 1) ('\n' :: rest) = readStatements fuel rest :=
    fun _ => rfl
  constructor
  · intro h fuel hfuel
    rw [← hstep]
    exact h (fuel + 1) (by rw [List.length_cons]; omega)
  · intro h fuel hfuel
    rw [List.length_cons] at hfuel
    cases fuel with
    | zero => omega
    | succ fuel =>
        rw [hstep]
        exact h fuel (by omega)

/-- A statement begins with a sign that ends no line. -/
theorem reads_statement {c : Char} {cs : List Char} {st : Statement}
    (hc : isBlank c = false ∧ c ≠ '#' ∧ c ≠ '\n' ∧ c ≠ '\r')
    (hread : readStatement (c :: cs) = some (st, rest)) (hlength : rest.length ≤ cs.length)
    (h : Reads rest stmts) : Reads (c :: cs) (st :: stmts) := by
  intro fuel hfuel
  rcases hc with ⟨hblank, hmark, hline, hreturn⟩
  cases fuel with
  | zero => omega
  | succ fuel =>
      rw [List.length_cons] at hfuel
      have hskip : skipBlanks (c :: cs) = c :: cs := by
        simp [skipBlanks, hblank]
      have hend : endStatement (c :: cs) = none := by
        have hcomment : skipComment (c :: cs) = c :: cs := by
          rw [skipComment]
          intro left heq
          exact hmark (List.cons.inj heq).1
        rw [endStatement, hskip, hcomment]
        exact lineEnd?_cons_of_ne hline hreturn cs
      rw [readStatements, hskip]
      simp [hend, hread, h fuel (by omega)]

theorem reads_header {name : String} (hname : IsBare name) (h : Reads rest stmts) :
    Reads ('[' :: (name.toList ++ ']' :: '\n' :: rest)) (.table [name] :: stmts) := by
  refine reads_statement (by decide) (readStatement_header hname rest) ?_ h
  simp only [List.length_append, List.length_cons]
  omega

theorem reads_assign {key : String} (hkey : IsBare key) {s : Scalar} {text : String}
    (htext : s.text? = some text) (h : Reads rest stmts) :
    Reads (key.toList ++ ' ' :: '=' :: ' ' :: (text.toList ++ '\n' :: rest))
      (.assign [key] s.toValue :: stmts) := by
  have hread := readStatement_assign hkey htext rest
  rcases hkey.exists_cons with ⟨c, cs, hlist, hc⟩
  rcases ne_of_isBareChar hc with ⟨hblank, _, _, _, hmark, hline, hreturn⟩
  rw [hlist, List.cons_append] at hread ⊢
  refine reads_statement ⟨hblank, hmark, hline, hreturn⟩ hread ?_ h
  simp only [List.length_append, List.length_cons]
  omega

/-! ## Sections -/

theorem mapM_cons_eq_some_iff {α β : Type} {f : α → Option β} {a : α} {as : List α}
    {found : List β} :
    (a :: as).mapM f = some found ↔
      ∃ b bs, f a = some b ∧ as.mapM f = some bs ∧ found = b :: bs := by
  rw [List.mapM_cons]
  cases f a with
  | none => simp
  | some b =>
      cases as.mapM f with
      | none => simp
      | some bs => simp [eq_comm]

theorem isSome_mapM_iff {α β : Type} {f : α → Option β} {as : List α} :
    (as.mapM f).isSome ↔ ∀ a ∈ as, (f a).isSome := by
  induction as with
  | nil => simp
  | cons a as ih =>
      rw [List.mapM_cons, List.forall_mem_cons, ← ih]
      cases f a with
      | none => simp
      | some b =>
          cases as.mapM f with
          | none => simp
          | some bs => simp

/-- The name of a section, and its keys with their values. -/
def Section.entry (s : Section) : String × List (String × Value) :=
  (s.name, s.statements.map fun st => (st.1, st.2.toValue))

theorem reads_statements {statements : List (String × Scalar)} {lines : List String}
    (hlines : statements.mapM (fun (key, value) => statementText? key value) = some lines)
    (hbare : ∀ st ∈ statements, IsBare st.1) (h : Reads rest stmts) :
    Reads (lines.flatMap String.toList ++ rest)
      (statements.map (fun st => .assign [st.1] st.2.toValue) ++ stmts) := by
  induction statements generalizing lines with
  | nil =>
      cases hlines
      exact h
  | cons st statements ih =>
      rcases st with ⟨key, value⟩
      rcases mapM_cons_eq_some_iff.1 hlines with ⟨line, others, hline, hothers, rfl⟩
      rcases Option.map_eq_some_iff.1 hline with ⟨text, htext, rfl⟩
      have hlist : ((key ++ " = " ++ text ++ "\n") :: others).flatMap String.toList ++ rest =
          key.toList ++ ' ' :: '=' :: ' ' ::
            (text.toList ++ '\n' :: (others.flatMap String.toList ++ rest)) := by
        simp
      rw [hlist]
      refine reads_assign (hbare _ List.mem_cons_self) htext ?_
      exact ih hothers fun st hst => hbare st (List.mem_cons_of_mem _ hst)

/-- A section with a bare name, bare keys, and none of its keys twice. -/
structure Section.Plain (s : Section) : Prop where
  name : IsBare s.name
  keys : ∀ st ∈ s.statements, IsBare st.1
  nodup : (s.statements.map (·.1)).Nodup

theorem Section.text?_eq (s : Section) :
    s.text? =
      (s.statements.mapM fun (key, value) => statementText? key value).map fun lines =>
        "[" ++ s.name ++ "]\n" ++ String.join lines := by
  unfold Section.text?
  cases s.statements.mapM fun (key, value) => statementText? key value with
  | none => rfl
  | some lines => rfl

theorem Section.text?_eq_some_iff {s : Section} {text : String} :
    s.text? = some text ↔ ∃ lines,
      s.statements.mapM (fun (key, value) => statementText? key value) = some lines
      ∧ "[" ++ s.name ++ "]\n" ++ String.join lines = text := by
  rw [Section.text?_eq, Option.map_eq_some_iff]

theorem reads_section {s : Section} (hplain : s.Plain) {text : String} (htext : s.text? = some text)
    (h : Reads rest stmts) :
    Reads (text.toList ++ rest) (sectionStatements [s.entry] ++ stmts) := by
  rcases Section.text?_eq_some_iff.1 htext with ⟨lines, hlines, rfl⟩
  have hlist : ("[" ++ s.name ++ "]\n" ++ String.join lines).toList ++ rest =
      '[' :: (s.name.toList ++ ']' :: '\n' :: (lines.flatMap String.toList ++ rest)) := by
    simp
  have hstmts : sectionStatements [s.entry] ++ stmts =
      .table [s.name] :: (s.statements.map (fun st => .assign [st.1] st.2.toValue) ++ stmts) := by
    simp [sectionStatements, Section.entry]
  rw [hlist, hstmts]
  exact reads_header hplain.name (reads_statements hlines hplain.keys h)

/-- Sections with a blank line before each of them. -/
theorem reads_sections {sections : List Section} {texts : List String}
    (htexts : sections.mapM Section.text? = some texts) (hplain : ∀ s ∈ sections, s.Plain) :
    Reads (texts.flatMap fun text => '\n' :: text.toList)
      (sectionStatements (sections.map Section.entry)) := by
  induction sections generalizing texts with
  | nil =>
      cases htexts
      exact reads_end
  | cons s sections ih =>
      rcases mapM_cons_eq_some_iff.1 htexts with ⟨text, others, htext, hothers, rfl⟩
      have hmore := ih hothers fun s' hs' => hplain s' (List.mem_cons_of_mem _ hs')
      have hstmts : sectionStatements ((s :: sections).map Section.entry) =
          sectionStatements [s.entry] ++ sectionStatements (sections.map Section.entry) := by
        simp [sectionStatements]
      rw [List.flatMap_cons, List.cons_append, reads_blankLine_iff, hstmts]
      exact reads_section (hplain s List.mem_cons_self) htext hmore

/-! ## Texts -/

/-- Blank lines between texts, and one more before the first. -/
theorem flatMap_lines (text : String) (texts : List String) :
    ((text :: texts).flatMap fun text => '\n' :: text.toList) =
      '\n' :: ("\n".intercalate (text :: texts)).toList := by
  induction texts generalizing text with
  | nil => simp
  | cons next texts ih =>
      rw [List.flatMap_cons, ih, String.intercalate_cons_cons, String.toList_append]
      simp

theorem write?_eq (sections : List Section) :
    write? sections = (sections.mapM Section.text?).map ("\n".intercalate ·) := by
  unfold write?
  cases sections.mapM Section.text? with
  | none => rfl
  | some texts => rfl

/-- Sections are written when all their scalars are. -/
theorem isSome_write?_iff {sections : List Section} :
    (write? sections).isSome ↔ ∀ s ∈ sections, ∀ st ∈ s.statements, st.2.text?.isSome := by
  have hsection : ∀ s : Section, s.text?.isSome ↔ ∀ st ∈ s.statements, st.2.text?.isSome := by
    intro s
    rw [Section.text?_eq, Option.isSome_map, isSome_mapM_iff]
    simp only [statementText?, Option.isSome_map]
  rw [write?_eq, Option.isSome_map, isSome_mapM_iff]
  simp only [hsection]

theorem statements_of_reads {text : String} (hmark : text.toList.head? ≠ some '\uFEFF')
    (h : Reads text.toList stmts) : statements text = some stmts := by
  have hdrop : dropMark text.toList = text.toList := by
    unfold dropMark
    split
    · rename_i heq
      exact absurd (by rw [heq]; rfl) hmark
    · rfl
  rw [statements, hdrop]
  exact h _ (Nat.lt_succ_self _)

/-- What is written of plain sections has the statements of these sections. -/
theorem statements_write {sections : List Section} (hplain : ∀ s ∈ sections, s.Plain)
    {text : String} (htext : write? sections = some text) :
    statements text = some (sectionStatements (sections.map Section.entry)) := by
  rcases Option.map_eq_some_iff.1 ((write?_eq sections).symm.trans htext) with ⟨texts, htexts, rfl⟩
  have hreads := reads_sections htexts hplain
  cases texts with
  | nil => exact statements_of_reads (by simp) hreads
  | cons first texts =>
      rw [flatMap_lines, reads_blankLine_iff] at hreads
      refine statements_of_reads ?_ hreads
      -- The text begins with the bracket of the first header.
      cases sections with
      | nil => cases htexts
      | cons s sections =>
          rcases mapM_cons_eq_some_iff.1 htexts with ⟨_, _, hfirst, _, heq⟩
          rw [← (List.cons.inj heq).1] at hfirst
          rcases Section.text?_eq_some_iff.1 hfirst with ⟨lines, _, rfl⟩
          cases texts with
          | nil => simp
          | cons next texts => simp

/-! ## Drafts -/

theorem splitKey_eq_some_iff {parents : Path} {name : String} :
    splitKey path = some (parents, name) ↔ path = parents ++ [name] := by
  rw [splitKey, Option.map_eq_some_iff]
  constructor
  · rintro ⟨last, hlast, heq⟩
    rcases List.getLast?_eq_some_iff.1 hlast with ⟨front, rfl⟩
    rw [List.dropLast_concat] at heq
    cases heq
    rfl
  · rintro rfl
    exact ⟨name, List.getLast?_concat, by rw [List.dropLast_concat]⟩

/-- Whatever is done with a key is done to its parents, under its last name. -/
theorem eq_some_of_splitKey {act : Path → String → Option Table} {make : Table → Draft}
    (h : ((splitKey path).bind fun (parents, name) =>
      (act parents name).bind fun root => some (make root)) = some d') :
    ∃ parents name root, path = parents ++ [name] ∧ act parents name = some root
      ∧ d' = make root := by
  rcases Option.bind_eq_some_iff.1 h with ⟨⟨parents, name⟩, hkey, h⟩
  rcases Option.bind_eq_some_iff.1 h with ⟨root, hroot, heq⟩
  cases heq
  exact ⟨parents, name, root, splitKey_eq_some_iff.1 hkey, hroot, rfl⟩

theorem openTable_eq_some (h : d.openTable path = some d') :
    ∃ parents name root, path = parents ++ [name]
      ∧ d.root.descend false (·.openHere name) parents = some root ∧ d' = ⟨root, path⟩ :=
  eq_some_of_splitKey h

theorem openElement_eq_some (h : d.openElement path = some d') :
    ∃ parents name root, path = parents ++ [name]
      ∧ d.root.descend false (·.pushHere name) parents = some root ∧ d' = ⟨root, path⟩ :=
  eq_some_of_splitKey h

theorem assign_eq_some {v : Value} (h : d.assign path v = some d') :
    ∃ parents name root, path = parents ++ [name]
      ∧ d.root.descend false (·.assign parents name v) d.opened = some root
      ∧ d' = ⟨root, d.opened⟩ :=
  eq_some_of_splitKey h

/-! ## Carrying out sections -/

theorem run_cons_iff {st : Statement} :
    (st :: stmts).foldlM Draft.carryOut d = some d' ↔
      ∃ next, d.carryOut st = some next ∧ stmts.foldlM Draft.carryOut next = some d' := by
  rw [List.foldlM_cons]
  exact Option.bind_eq_some_iff

theorem run_append_iff {later : List Statement} :
    (stmts ++ later).foldlM Draft.carryOut d = some d' ↔
      ∃ next, stmts.foldlM Draft.carryOut d = some next
        ∧ later.foldlM Draft.carryOut next = some d' := by
  rw [List.foldlM_append]
  exact Option.bind_eq_some_iff

/-- The entries that keys with their values give to a table. -/
def addKeys (keys : List (String × Value)) (entries : Entries Node) : Entries Node :=
  keys.foldl (fun acc e => Entries.insert e.1 (.value e.2) acc) entries

/-- The entries that sections give to a document. -/
def addSections (sections : List (String × List (String × Value))) (entries : Entries Node) :
    Entries Node :=
  sections.foldl (fun acc s => Entries.insert s.1 (.table .header (addKeys s.2 [])) acc) entries

/-- A draft with a section open that has these entries so far. -/
def Draft.within (sections : Entries Node) (name : String) (entries : Entries Node) : Draft :=
  ⟨⟨.header, Entries.insert name (.table .header entries) sections⟩, [name]⟩

theorem openTable_of_new {name : String} (h : Entries.find? name d.root.entries = none)
    (horigin : d.root.origin = .header) :
    d.openTable [name] = some (.within d.root.entries name []) := by
  rcases d with ⟨⟨origin, entries⟩, opened⟩
  subst horigin
  simp [Draft.openTable, splitKey, Table.descend, Table.openHere, h, Draft.within, Table.put]

theorem assign_of_new {sections entries : Entries Node} {name key : String}
    (h : Entries.find? key entries = none) (v : Value) :
    (Draft.within sections name entries).assign [key] v =
      some (.within sections name (Entries.insert key (.value v) entries)) := by
  have hcontains : Entries.contains key entries = false := by
    simp [Entries.contains, h]
  simp [Draft.assign, splitKey, Draft.within, Table.descend, Table.assign, Table.assignHere,
    hcontains, Table.put]

/-- What is new stays new when something else is put in. -/
theorem find?_eq_none_of_notMem {key : String} {n : Node} {entries : Entries Node}
    {names : List String} (hkey : key ∉ names)
    (hnew : ∀ name ∈ names, Entries.find? name entries = none) :
    ∀ name ∈ names, Entries.find? name (Entries.insert key n entries) = none := by
  intro name hname
  have hne : name ≠ key := fun heq => hkey (heq ▸ hname)
  rw [Entries.find?_insert_of_ne hne]
  exact hnew name hname

theorem run_keys {keys : List (String × Value)} {sections entries : Entries Node} {name : String}
    (hnodup : (keys.map (·.1)).Nodup)
    (hnew : ∀ key ∈ keys.map (·.1), Entries.find? key entries = none) :
    (keys.map fun e => Statement.assign [e.1] e.2).foldlM Draft.carryOut
      (.within sections name entries) = some (.within sections name (addKeys keys entries)) := by
  induction keys generalizing entries with
  | nil => rfl
  | cons e keys ih =>
      rcases List.nodup_cons.1 hnodup with ⟨hkey, hrest⟩
      rcases List.forall_mem_cons.1 hnew with ⟨hfirst, hmore⟩
      refine run_cons_iff.2 ⟨_, assign_of_new hfirst e.2, ?_⟩
      exact ih hrest (find?_eq_none_of_notMem hkey hmore)

/-- Sections of different names, each with different keys, are carried out in any order, and so are
the keys of each. -/
theorem run_sections {sections : List (String × List (String × Value))}
    (hnames : (sections.map (·.1)).Nodup) (hkeys : ∀ s ∈ sections, (s.2.map (·.1)).Nodup)
    (hnew : ∀ name ∈ sections.map (·.1), Entries.find? name d.root.entries = none)
    (horigin : d.root.origin = .header) :
    ∃ d', (sectionStatements sections).foldlM Draft.carryOut d = some d'
      ∧ d'.root = ⟨.header, addSections sections d.root.entries⟩ := by
  induction sections generalizing d with
  | nil =>
      rcases d with ⟨⟨origin, entries⟩, opened⟩
      subst horigin
      exact ⟨_, rfl, rfl⟩
  | cons s sections ih =>
      rcases List.nodup_cons.1 hnames with ⟨hname, hothers⟩
      rcases List.forall_mem_cons.1 hkeys with ⟨hfirst, hmore⟩
      rcases List.forall_mem_cons.1 hnew with ⟨hfree, hlater⟩
      have hopen := openTable_of_new hfree horigin
      have hempty : ∀ key ∈ s.2.map (·.1), Entries.find? key ([] : Entries Node) = none :=
        fun _ _ => rfl
      rcases ih (d := .within d.root.entries s.1 (addKeys s.2 [])) hothers hmore
        (find?_eq_none_of_notMem hname hlater) rfl with ⟨d', hd', hroot⟩
      refine ⟨d', ?_, hroot⟩
      rw [sectionStatements, List.flatMap_cons]
      exact run_append_iff.2 ⟨_, run_cons_iff.2 ⟨_, hopen, run_keys hfirst hempty⟩, hd'⟩

/-- Such sections make a document. -/
theorem readable_sections {sections : List (String × List (String × Value))}
    (hnames : (sections.map (·.1)).Nodup) (hkeys : ∀ s ∈ sections, (s.2.map (·.1)).Nodup) :
    ((sectionStatements sections).foldlM Draft.carryOut .empty).isSome = true := by
  rcases run_sections (d := .empty) hnames hkeys (fun _ _ => rfl) rfl with ⟨d, hd, _⟩
  rw [hd]
  rfl

/-! ## Documents -/

theorem read_of_statements {text : String} (h : statements text = some stmts) :
    read text = (stmts.foldlM Draft.carryOut .empty).map (·.root.toValue) := by
  rw [read, h]
  cases hrun : stmts.foldlM Draft.carryOut .empty <;> simp [hrun]

theorem Section.Plain.nodup_entries {sections : List Section} (hplain : ∀ s ∈ sections, s.Plain) :
    ∀ e ∈ sections.map Section.entry, (e.2.map (·.1)).Nodup := by
  intro e he
  rcases List.mem_map.1 he with ⟨s, hs, rfl⟩
  simpa [Section.entry, Function.comp_def] using (hplain s hs).nodup

/-- Plain sections of different names, in any order, are written as a document with their
statements. -/
theorem isDocument_write {sections : List Section} (hplain : ∀ s ∈ sections, s.Plain)
    (hnodup : (sections.map (·.name)).Nodup) {text : String} (htext : write? sections = some text) :
    IsDocument text (sectionStatements (sections.map Section.entry)) where
  statements := statements_write hplain htext
  readable := readable_sections (by simpa [Function.comp_def, Section.entry] using hnodup)
    (Section.Plain.nodup_entries hplain)

@[simp] theorem toEntries_insert (key : String) (node : Node) (entries : Entries Node) :
    toEntries (Entries.insert key node entries) =
      Entries.insert key node.toValue (toEntries entries) := by
  induction entries with
  | nil => rfl
  | cons e entries ih =>
      rcases e with ⟨k, n⟩
      rw [Entries.insert]
      simp only [toEntries, Entries.insert]
      split
      · rfl
      · split
        · rfl
        · rw [toEntries, ih]

theorem toEntries_foldl_insert {α : Type} (key : α → String) (node : α → Node) (l : List α)
    (entries : Entries Node) :
    toEntries (l.foldl (fun acc a => Entries.insert (key a) (node a) acc) entries) =
      l.foldl (fun acc a => Entries.insert (key a) (node a).toValue acc) (toEntries entries) := by
  induction l generalizing entries with
  | nil => rfl
  | cons a l ih => rw [List.foldl_cons, List.foldl_cons, ih, toEntries_insert]

/-- The table that a section is read back as. -/
def Section.toValue (s : Section) : Value :=
  .table (Entries.ofList (s.statements.map fun st => (st.1, st.2.toValue)))

theorem toEntries_addKeys (keys : List (String × Value)) :
    toEntries (addKeys keys []) = Entries.ofList keys := by
  rw [addKeys, toEntries_foldl_insert]
  rfl

theorem toEntries_addSections (sections : List (String × List (String × Value))) :
    toEntries (addSections sections []) =
      Entries.ofList (sections.map fun s => (s.1, .table (Entries.ofList s.2))) := by
  rw [addSections, toEntries_foldl_insert, Entries.ofList, List.foldl_map]
  simp only [Node.toValue, toEntries_addKeys]
  rfl

/-- What is written of plain sections is read back as their tables. -/
theorem read_write {sections : List Section} (hplain : ∀ s ∈ sections, s.Plain)
    (hnodup : (sections.map (·.name)).Nodup) {text : String} (htext : write? sections = some text) :
    read text = some (.table (Entries.ofList (sections.map fun s => (s.name, s.toValue)))) := by
  have hnames : ((sections.map Section.entry).map (·.1)).Nodup := by
    simpa [Function.comp_def, Section.entry] using hnodup
  rcases run_sections (d := .empty) hnames (Section.Plain.nodup_entries hplain) (fun _ _ => rfl)
    rfl with ⟨d, hd, hroot⟩
  rw [read_of_statements (statements_write hplain htext), hd, Option.map_some, Table.toValue, hroot]
  show some (Value.table (toEntries (addSections _ []))) = _
  rw [toEntries_addSections, List.map_map]
  rfl

end Toml
end RpcHost
