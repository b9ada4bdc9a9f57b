import RpcHost.Toml.Scan
import RpcHost.Toml.StringForm

/-!
# Strings survive being written

Whatever its characters, a string is read back from the form that is chosen for it
(`readString_write`). The two quoted forms and the long literal form are read piece by piece: raw
quotes in short runs, and pieces that stand for one character each. `Pieces` says how a string falls
apart in this way, and `Form` what a reader has to do with each piece.
-/

namespace RpcHost
namespace Toml

variable {cs rest : List Char} {form : StringForm}

/-! ## Pieces of a string -/

/-- A string in pieces: quotes that stand for themselves, never more in a row than the form allows,
and spelled characters. `run` counts the raw quotes just before. -/
inductive Pieces (form : StringForm) (Spelled : Char → List Char → Prop) :
    Nat → List Char → List Char → Prop where
  | nil {run : Nat} : Pieces form Spelled run [] []
  | quote {run : Nat} {cs body : List Char} (hrun : run < form.rawQuotes)
      (hmore : Pieces form Spelled (run + 1) cs body) :
      Pieces form Spelled run (form.quote :: cs) (form.quote :: body)
  | char {run : Nat} {c : Char} {cs front body : List Char} (hc : Spelled c front)
      (hmore : Pieces form Spelled 0 cs body) : Pieces form Spelled run (c :: cs) (front ++ body)

/-- What a reader of strings in one form does. -/
structure Form (form : StringForm) (Spelled : Char → List Char → Prop)
    (read : Nat → List Char → List Char → Option (String × List Char)) : Prop where
  /-- A spelled character begins with no quote, and with a line feed only if it is one. -/
  front : ∀ {c : Char} {front : List Char}, Spelled c front → ∃ d more, front = d :: more
    ∧ d ≠ form.quote ∧ d ≠ '\r' ∧ (d = '\n' → c = '\n')
  char : ∀ {c : Char} {front : List Char} (fuel : Nat) (acc more : List Char), Spelled c front →
    read (fuel + 1) acc (front ++ more) = read fuel (c :: acc) more
  quotes : ∀ {n : Nat} (fuel : Nat) (acc : List Char) {more : List Char}, 0 < n →
    n ≤ form.rawQuotes → more.head? ≠ some form.quote →
    read (fuel + 1) acc (List.replicate n form.quote ++ more) =
      read fuel (List.replicate n form.quote ++ acc) more
  close : ∀ {n : Nat} (fuel : Nat) (acc : List Char) {rest : List Char}, n ≤ form.rawQuotes →
    rest.head? ≠ some form.quote →
    read (fuel + 1) acc (List.replicate n form.quote ++ (form.delimiter ++ rest)) =
      some (String.ofList (acc.reverse ++ List.replicate n form.quote), rest)

theorem Form.read_pieces {Spelled : Char → List Char → Prop}
    {read : Nat → List Char → List Char → Option (String × List Char)}
    (hform : Form form Spelled read) {run : Nat} {body : List Char}
    (h : Pieces form Spelled run cs body) (hrun : run ≤ form.rawQuotes)
    (hrest : rest.head? ≠ some form.quote) (fuel : Nat) (acc : List Char)
    (hfuel : run + body.length < fuel) :
    read fuel acc (List.replicate run form.quote ++ (body ++ (form.delimiter ++ rest))) =
      some (String.ofList (acc.reverse ++ (List.replicate run form.quote ++ cs)), rest) := by
  -- A run of quotes is read as one, so the run so far is carried along unread.
  induction h generalizing fuel acc with
  | @nil run =>
      cases fuel with
      | zero => omega
      | succ fuel => simpa using hform.close fuel acc hrun hrest
  | @quote run cs body hlt _ ih =>
      have hmore := ih (by omega) fuel acc (by simp only [List.length_cons] at hfuel; omega)
      simpa [List.replicate_succ', List.append_assoc] using hmore
  | @char run c cs front body hc _ ih =>
      rcases hform.front hc with ⟨d, more, hfront, hquote, _⟩
      rw [List.length_append] at hfuel
      have hlength : 0 < front.length := by
        simp [hfront]
      have hread : ∀ fuel acc, front.length + body.length < fuel →
          read fuel acc (front ++ (body ++ (form.delimiter ++ rest))) =
            some (String.ofList (acc.reverse ++ c :: cs), rest) := by
        intro fuel acc hfuel
        cases fuel with
        | zero => omega
        | succ fuel =>
            rw [hform.char fuel acc _ hc]
            simpa using ih (by omega) fuel (c :: acc) (by omega)
      cases fuel with
      | zero => omega
      | succ fuel =>
          by_cases hzero : run = 0
          · subst hzero
            simpa using hread (fuel + 1) acc (by omega)
          · have hhead : (front ++ (body ++ (form.delimiter ++ rest))).head? ≠ some form.quote := by
              simpa [hfront] using hquote
            rw [List.append_assoc, hform.quotes fuel acc (by omega) hrun hhead,
              hread fuel _ (by omega)]
            simp

/-! ## Spelled characters -/

/-- How a character other than a raw quote stands in a quoted form. -/
inductive QuotedChar (form : StringForm) (c : Char) : List Char → Prop where
  | raw (hc : isBasicChar c = true) : QuotedChar form c [c]
  | lineEnd (hlong : form.tripled = true) (hc : c = '\n') : QuotedChar form c ['\n']
  | escape {e : Char} {more : List Char} (hletter : isBlank e = false ∧ e ≠ '\n' ∧ e ≠ '\r')
      (hread : ∀ rest, readEscape (e :: more ++ rest) = some (c, rest)) :
      QuotedChar form c ('\\' :: e :: more)

/-- How a character other than a raw quote stands in the long literal form. -/
inductive LiteralChar (c : Char) : List Char → Prop where
  | raw (hc : isLiteralChar c = true ∨ c = '\n') : LiteralChar c [c]

theorem hexNumber?_upperHex (n : Fin 128) :
    hexNumber? ['0', '0', StringForm.upperHex (n / 16), StringForm.upperHex (n % 16)] =
      some n.val := by
  revert n
  decide

theorem readEscape_of_control {c : Char} (hc : c.toNat < 128) (rest : List Char) :
    readEscape ('u' :: ['0', '0', StringForm.upperHex (c.toNat / 16),
      StringForm.upperHex (c.toNat % 16)] ++ rest) = some (c, rest) := by
  have hnumber : hexNumber? ['0', '0', StringForm.upperHex (c.toNat / 16),
      StringForm.upperHex (c.toNat % 16)] = some c.toNat :=
    hexNumber?_upperHex ⟨c.toNat, hc⟩
  have hvalid : c.toNat.isValidChar := c.valid
  have hsame : Char.ofNatAux c.toNat hvalid = c := by
    have hofNat : Char.ofNat c.toNat = Char.ofNatAux c.toNat hvalid := dif_pos hvalid
    exact hofNat.symm.trans (Char.ofNat_toNat c)
  calc
    readEscape ('u' :: ['0', '0', StringForm.upperHex (c.toNat / 16),
        StringForm.upperHex (c.toNat % 16)] ++ rest)
        = (hexNumber? ['0', '0', StringForm.upperHex (c.toNat / 16),
            StringForm.upperHex (c.toNat % 16)]).bind fun code =>
            if h : code.isValidChar then some (Char.ofNatAux code h, rest) else none := rfl
    _ = some (Char.ofNatAux c.toNat hvalid, rest) := by
          rw [hnumber, Option.bind_some, dif_pos hvalid]
    _ = some (c, rest) := by rw [hsame]

/-- What is no control character may stand as it is, up to the line feed that a form may exclude. -/
theorem isCommentChar_of_not_control {c : Char} (h : StringForm.isControl c = false)
    (hline : c ≠ '\n') : isCommentChar c = true := by
  by_cases htab : c = '\t'
  · subst htab
    rfl
  · simpa [StringForm.isControl, isCommentChar, htab, hline] using h

theorem quotedChar_escapeChar {c : Char} (hquote : c ≠ '"') :
    QuotedChar form c (form.escapeChar c) := by
  unfold StringForm.escapeChar
  split
  · exact .escape (by decide) (fun _ => rfl)
  · exact .escape (by decide) (fun _ => rfl)
  · split
    · rename_i hlong
      exact .lineEnd hlong rfl
    · exact .escape (by decide) (fun _ => rfl)
  · exact .escape (by decide) (fun _ => rfl)
  · exact .escape (by decide) (fun _ => rfl)
  · exact .escape (by decide) (fun _ => rfl)
  · rename_i hline _ _ hslash
    split
    · rename_i hcontrol
      refine .escape (by decide) (readEscape_of_control ?_)
      simp only [StringForm.isControl, Bool.or_eq_true, Bool.and_eq_true,
        decide_eq_true_eq] at hcontrol
      omega
    · rename_i hcontrol
      have hplain : isCommentChar c = true :=
        isCommentChar_of_not_control (by simpa using hcontrol) hline
      have hback : c ≠ '\\' := hslash
      exact .raw (by simp [isBasicChar, hplain, hquote, hback])

/-- A quoted form writes its characters in pieces. -/
theorem pieces_escapeAll (hescaped : form.escaped = true) (run : Nat) (cs : List Char) :
    Pieces form (QuotedChar form) run cs (form.escapeAll run cs) := by
  have hquote : form.quote = '"' := by
    simp [StringForm.quote, hescaped]
  induction cs generalizing run with
  | nil => exact .nil
  | cons c cs ih =>
      by_cases hc : c = '"'
      · subst hc
        rw [StringForm.escapeAll]
        split
        · rename_i hrun
          exact hquote ▸ Pieces.quote hrun (ih (run + 1))
        · have hspelled : QuotedChar form '"' ['\\', '"'] := .escape (by decide) (fun _ => rfl)
          exact .char hspelled (ih 0)
      · rw [StringForm.escapeAll]
        · exact .char (quotedChar_escapeChar hc) (ih 0)
        · exact hc

theorem le_longestRun (c : Char) (run : Nat) (cs : List Char) :
    run ≤ StringForm.longestRun c run cs := by
  induction cs generalizing run with
  | nil => exact Nat.le_refl run
  | cons d cs ih =>
      rw [StringForm.longestRun]
      split
      · have := ih (run + 1)
        omega
      · omega

/-- A literal form writes its characters as they are. -/
theorem pieces_self {cs : List Char} {run : Nat}
    (hrun : StringForm.longestRun '\'' run cs ≤ 2)
    (hcontrol : ∀ c ∈ cs, StringForm.isControl c = false) :
    Pieces .longLiteral LiteralChar run cs cs := by
  induction cs generalizing run with
  | nil => exact .nil
  | cons c cs ih =>
      have hcs : ∀ d ∈ cs, StringForm.isControl d = false := by
        intro d hd
        exact hcontrol d (List.mem_cons_of_mem c hd)
      rw [StringForm.longestRun] at hrun
      split at hrun
      · rename_i hc
        subst hc
        have hlt := le_longestRun '\'' (run + 1) cs
        exact .quote (by simp [StringForm.rawQuotes, StringForm.longLiteral]; omega) (ih hrun hcs)
      · rename_i hc
        have hraw : LiteralChar c [c] := by
          refine .raw ?_
          by_cases hline : c = '\n'
          · exact .inr hline
          · left
            have hplain := isCommentChar_of_not_control (hcontrol c List.mem_cons_self) hline
            simp [isLiteralChar, hplain, hc]
        exact .char hraw (ih (by omega) hcs)

/-! ## The readers of the forms -/

theorem lineEnd?_cons_of_ne {c : Char} (hline : c ≠ '\n') (hreturn : c ≠ '\r')
    (rest : List Char) : lineEnd? (c :: rest) = none := by
  unfold lineEnd?
  split
  · rename_i heq
    exact absurd (List.cons.inj heq).1 hline
  · rename_i heq
    exact absurd (List.cons.inj heq).1 hreturn
  · rfl

theorem ne_of_isCommentChar {c : Char} (h : isCommentChar c = true) : c ≠ '\n' ∧ c ≠ '\r' := by
  constructor
  · rintro rfl
    cases h
  · rintro rfl
    cases h

/-- No escape is taken for the end of a line. -/
theorem continuation?_of_letter {e : Char} (h : isBlank e = false ∧ e ≠ '\n' ∧ e ≠ '\r')
    (rest : List Char) : continuation? (e :: rest) = none := by
  rcases h with ⟨hblank, hline, hreturn⟩
  have hskip : skipBlanks (e :: rest) = e :: rest := by
    simp [skipBlanks, hblank]
  rw [continuation?, hskip, lineEnd?_cons_of_ne hline hreturn]
  rfl

theorem takeWhile_replicate {q : Char} (n : Nat) {more : List Char} (h : more.head? ≠ some q) :
    (List.replicate n q ++ more).takeWhile (· = q) = List.replicate n q := by
  have hrun : ∀ c ∈ List.replicate n q, decide (c = q) = true := by
    intro c hc
    simpa using (List.mem_replicate.1 hc).2
  rw [List.takeWhile_append_of_pos hrun]
  cases more with
  | nil => simp
  | cons c more =>
      have hc : c ≠ q := by
        simpa using h
      simp [hc]

theorem quotedChar_front {c : Char} {front : List Char} (hescaped : form.escaped = true)
    (h : QuotedChar form c front) : ∃ d more, front = d :: more
      ∧ d ≠ form.quote ∧ d ≠ '\r' ∧ (d = '\n' → c = '\n') := by
  have hquote : form.quote = '"' := by
    simp [StringForm.quote, hescaped]
  rw [hquote]
  cases h with
  | raw hc =>
      simp only [isBasicChar, Bool.and_eq_true, decide_eq_true_eq] at hc
      exact ⟨c, [], rfl, hc.1.2, (ne_of_isCommentChar hc.1.1).2, id⟩
  | lineEnd _ hc => exact ⟨'\n', [], rfl, by decide, by decide, fun _ => hc⟩
  | escape _ _ => exact ⟨'\\', _, rfl, by decide, by decide, fun h => absurd h (by decide)⟩

theorem form_readBasic : Form .quoted (QuotedChar .quoted) readBasic where
  front := quotedChar_front rfl
  char := by
    intro c front fuel acc more h
    cases h with
    | raw hc =>
        have hbasic := hc
        simp only [isBasicChar, Bool.and_eq_true, decide_eq_true_eq] at hc
        simp [readBasic, hc.1.2, hc.2, hbasic]
    | lineEnd hlong _ => cases hlong
    | escape _ hread =>
        have hescape := hread more
        rw [List.cons_append] at hescape
        simp [readBasic, hescape]
  quotes := by
    intro n fuel acc more hn hle _
    have hzero : n ≤ 0 := hle
    omega
  close := by
    intro n fuel acc rest hle _
    have hzero : n = 0 := Nat.le_zero.1 hle
    subst hzero
    simp [readBasic, StringForm.quoted, StringForm.delimiter, StringForm.quote]

/-- Fewer than three quotes belong to the string. -/
theorem ofLength_of_le {n : Nat} (h : n ≤ 2) : QuoteRun.ofLength n = .inside n :=
  if_pos (Nat.lt_succ_of_le h)

/-- Three quotes close the string, after as many as may stand in it. -/
theorem ofLength_add_three {n : Nat} (h : n ≤ 2) : QuoteRun.ofLength (n + 3) = .closing n := by
  have hmin : min (n + 3 - 3) 2 = n := by
    omega
  rw [QuoteRun.ofLength, if_neg (by omega), hmin]

theorem head?_replicate_append {n : Nat} (h : 0 < n) (q : Char) (more : List Char) :
    (List.replicate n q ++ more).head? = some q := by
  cases n with
  | zero => cases h
  | succ n => rfl

/-- Quotes in front of the three that close a string make one run with them. -/
theorem replicate_append_three (n : Nat) (q : Char) (rest : List Char) :
    List.replicate n q ++ ([q, q, q] ++ rest) = List.replicate (n + 3) q ++ rest := by
  rw [← List.append_assoc]
  congr 1
  exact List.replicate_append_replicate (n := n) (m := 3) (a := q)

/-- What the readers of both long forms do where a quote stands. -/
def ReadsRuns (q : Char) (read : Nat → List Char → List Char → Option (String × List Char)) :
    Prop :=
  ∀ (fuel : Nat) (acc : List Char) {cs : List Char}, cs.head? = some q →
    read (fuel + 1) acc cs =
      match QuoteRun.ofLength (cs.takeWhile (· = q)).length with
      | .inside n => read fuel (List.replicate n q ++ acc) (cs.drop n)
      | .closing n =>
          some (String.ofList (List.replicate n q ++ acc).reverse, cs.drop (n + 3))

theorem ReadsRuns.quotes {q : Char}
    {read : Nat → List Char → List Char → Option (String × List Char)} (h : ReadsRuns q read)
    {n : Nat} (fuel : Nat) (acc : List Char) {more : List Char} (hn : 0 < n) (hle : n ≤ 2)
    (hmore : more.head? ≠ some q) :
    read (fuel + 1) acc (List.replicate n q ++ more) =
      read fuel (List.replicate n q ++ acc) more := by
  rw [h fuel acc (head?_replicate_append hn q more), takeWhile_replicate n hmore,
    List.length_replicate, ofLength_of_le hle]
  simp

theorem ReadsRuns.close {q : Char}
    {read : Nat → List Char → List Char → Option (String × List Char)} (h : ReadsRuns q read)
    {n : Nat} (fuel : Nat) (acc : List Char) {rest : List Char} (hle : n ≤ 2)
    (hrest : rest.head? ≠ some q) :
    read (fuel + 1) acc (List.replicate n q ++ ([q, q, q] ++ rest)) =
      some (String.ofList (acc.reverse ++ List.replicate n q), rest) := by
  rw [replicate_append_three, h fuel acc (head?_replicate_append (by omega) q rest),
    takeWhile_replicate (n + 3) hrest, List.length_replicate, ofLength_add_three hle]
  simp

theorem readsRuns_readLongBasic : ReadsRuns '"' readLongBasic := by
  intro fuel acc cs h
  cases cs with
  | nil => cases h
  | cons c cs =>
      cases h
      rfl

theorem readsRuns_readLongLiteral : ReadsRuns '\'' readLongLiteral := by
  intro fuel acc cs h
  cases cs with
  | nil => cases h
  | cons c cs =>
      cases h
      rfl

theorem form_readLongBasic : Form .longQuoted (QuotedChar .longQuoted) readLongBasic where
  front := quotedChar_front rfl
  char := by
    intro c front fuel acc more h
    cases h with
    | raw hc =>
        have hbasic := hc
        simp only [isBasicChar, Bool.and_eq_true, decide_eq_true_eq] at hc
        rcases ne_of_isCommentChar hc.1.1 with ⟨hline, hreturn⟩
        have hend := lineEnd?_cons_of_ne hline hreturn more
        simp [readLongBasic, hc.1.2, hc.2, hend, hbasic]
    | lineEnd _ hc =>
        subst hc
        simp [readLongBasic, lineEnd?]
    | escape hletter hread =>
        have hescape := hread more
        rw [List.cons_append] at hescape
        simp [readLongBasic, continuation?_of_letter hletter, hescape]
  quotes := fun fuel acc _ hn hle hmore => readsRuns_readLongBasic.quotes fuel acc hn hle hmore
  close := fun fuel acc _ hle hrest => readsRuns_readLongBasic.close fuel acc hle hrest

theorem form_readLongLiteral : Form .longLiteral LiteralChar readLongLiteral where
  front := by
    intro c front h
    cases h with
    | raw hc =>
        refine ⟨c, [], rfl, ?_⟩
        rcases hc with hc | rfl
        · simp only [isLiteralChar, Bool.and_eq_true, decide_eq_true_eq] at hc
          exact ⟨hc.2, (ne_of_isCommentChar hc.1).2, id⟩
        · decide
  char := by
    intro c front fuel acc more h
    cases h with
    | raw hc =>
        rcases hc with hc | rfl
        · have hliteral := hc
          simp only [isLiteralChar, Bool.and_eq_true, decide_eq_true_eq] at hc
          rcases ne_of_isCommentChar hc.1 with ⟨hline, hreturn⟩
          have hend := lineEnd?_cons_of_ne hline hreturn more
          simp [readLongLiteral, hc.2, hend, hliteral]
        · simp [readLongLiteral, lineEnd?]
  quotes := fun fuel acc _ hn hle hmore => readsRuns_readLongLiteral.quotes fuel acc hn hle hmore
  close := fun fuel acc _ hle hrest => readsRuns_readLongLiteral.close fuel acc hle hrest

/-! ## Whole strings -/

/-- The line end that a long form puts in front is dropped again, and no other. -/
theorem Form.dropFirstLineEnd_opening {Spelled : Char → List Char → Prop}
    {read : Nat → List Char → List Char → Option (String × List Char)}
    (hform : Form form Spelled read) {body : List Char} (h : Pieces form Spelled 0 cs body)
    (more : List Char) :
    dropFirstLineEnd ((if cs.contains '\n' then ['\n'] else []) ++ (body ++ form.quote :: more)) =
      body ++ form.quote :: more := by
  have hquote : form.quote ≠ '\n' ∧ form.quote ≠ '\r' := by
    unfold StringForm.quote
    split <;> decide
  split
  · rfl
  · rename_i hline
    have hend : lineEnd? (body ++ form.quote :: more) = none := by
      cases h with
      | nil => exact lineEnd?_cons_of_ne hquote.1 hquote.2 more
      | quote _ _ => exact lineEnd?_cons_of_ne hquote.1 hquote.2 _
      | @char _ c cs front body hc _ =>
          rcases hform.front hc with ⟨d, left, hfront, _, hreturn, hfeed⟩
          have hd : d ≠ '\n' := by
            intro heq
            simp [hfeed heq] at hline
          rw [hfront]
          exact lineEnd?_cons_of_ne hd hreturn _
    rw [dropFirstLineEnd, List.nil_append, hend]
    rfl

theorem Form.read_long {Spelled : Char → List Char → Prop}
    {read : Nat → List Char → List Char → Option (String × List Char)}
    (hform : Form form Spelled read) (htripled : form.tripled = true)
    (h : Pieces form Spelled 0 cs (form.body cs)) (hrest : rest.head? ≠ some form.quote) :
    ∃ more, form.write cs ++ rest = form.quote :: form.quote :: form.quote :: more
      ∧ read ((dropFirstLineEnd more).length + 1) [] (dropFirstLineEnd more) =
          some (String.ofList cs, rest) := by
  have hdelimiter : form.delimiter = [form.quote, form.quote, form.quote] := by
    simp [StringForm.delimiter, htripled]
  have hdrop := hform.dropFirstLineEnd_opening h (form.quote :: form.quote :: rest)
  refine ⟨(if cs.contains '\n' then ['\n'] else [])
    ++ (form.body cs ++ form.quote :: form.quote :: form.quote :: rest), ?_, ?_⟩
  · rw [StringForm.write, hdelimiter, htripled]
    simp only [Bool.true_and, List.append_assoc, List.cons_append, List.nil_append]
  · rw [hdrop]
    have hread := hform.read_pieces h (Nat.zero_le _) hrest
      ((form.body cs ++ (form.delimiter ++ rest)).length + 1) []
      (by simp only [List.length_append]; omega)
    simpa [hdelimiter] using hread

/-- Fewer than three quotes at the start open a short form. -/
theorem readString_basic {cs : List Char} (h : ∀ more, cs ≠ '"' :: '"' :: more) :
    readString ('"' :: cs) = readBasic (cs.length + 1) [] cs := by
  rw [readString]
  exact h

theorem readString_literal {cs : List Char} (h : ∀ more, cs ≠ '\'' :: '\'' :: more) :
    readString ('\'' :: cs) = readLiteral cs := by
  rw [readString]
  exact h

theorem readString_quoted (cs : List Char) (hrest : rest.head? ≠ some '"') :
    readString (StringForm.quoted.write cs ++ rest) = some (String.ofList cs, rest) := by
  have hpieces : Pieces .quoted (QuotedChar .quoted) 0 cs (StringForm.quoted.escapeAll 0 cs) :=
    pieces_escapeAll rfl 0 cs
  have hwrite : StringForm.quoted.write cs ++ rest =
      '"' :: (StringForm.quoted.escapeAll 0 cs ++ '"' :: rest) := by
    simp [StringForm.write, StringForm.delimiter, StringForm.body, StringForm.quoted,
      StringForm.quote]
  have hshort : ∀ more, StringForm.quoted.escapeAll 0 cs ++ '"' :: rest ≠ '"' :: '"' :: more := by
    intro more heq
    generalize StringForm.quoted.escapeAll 0 cs = body at hpieces heq
    cases hpieces with
    | nil =>
        rw [List.nil_append] at heq
        exact hrest (by rw [(List.cons.inj heq).2]; rfl)
    | quote hrun _ => exact absurd hrun (Nat.not_lt_zero _)
    | char hc _ =>
        rcases form_readBasic.front hc with ⟨d, left, hfront, hquote, _⟩
        rw [hfront] at heq
        exact hquote (List.cons.inj heq).1
  have hread := form_readBasic.read_pieces hpieces (Nat.zero_le _) hrest
    ((StringForm.quoted.escapeAll 0 cs ++ '"' :: rest).length + 1) []
    (by simp only [List.length_append]; omega)
  rw [hwrite, readString_basic hshort]
  exact hread

theorem readString_longQuoted (cs : List Char) (hrest : rest.head? ≠ some '"') :
    readString (StringForm.longQuoted.write cs ++ rest) = some (String.ofList cs, rest) := by
  have hpieces : Pieces .longQuoted (QuotedChar .longQuoted) 0 cs (StringForm.longQuoted.body cs) :=
    pieces_escapeAll rfl 0 cs
  rcases form_readLongBasic.read_long rfl hpieces hrest with ⟨more, hwrite, hread⟩
  rw [hwrite]
  exact hread

theorem readString_longLiteral {cs : List Char}
    (hcontrol : ∀ c ∈ cs, StringForm.isControl c = false)
    (hsingles : StringForm.longestRun '\'' 0 cs ≤ 2) (hrest : rest.head? ≠ some '\'') :
    readString (StringForm.longLiteral.write cs ++ rest) = some (String.ofList cs, rest) := by
  have hpieces : Pieces .longLiteral LiteralChar 0 cs (StringForm.longLiteral.body cs) :=
    pieces_self hsingles hcontrol
  rcases form_readLongLiteral.read_long rfl hpieces hrest with ⟨more, hwrite, hread⟩
  rw [hwrite]
  exact hread

theorem not_mem_of_longestRun {c : Char} {run : Nat} {cs : List Char}
    (h : StringForm.longestRun c run cs = 0) : c ∉ cs := by
  induction cs generalizing run with
  | nil => simp
  | cons d cs ih =>
      rw [StringForm.longestRun] at h
      split at h
      · have hle := le_longestRun c (run + 1) cs
        omega
      · rename_i hd
        have hnone : StringForm.longestRun c 0 cs = 0 := by omega
        simp [ih hnone, Ne.symm hd]

theorem readString_literal_write {cs : List Char}
    (hcontrol : ∀ c ∈ cs, StringForm.isControl c = false) (hsingles : '\'' ∉ cs)
    (hline : '\n' ∉ cs) (hrest : rest.head? ≠ some '\'') :
    readString (StringForm.literal.write cs ++ rest) = some (String.ofList cs, rest) := by
  have hliteral : ∀ c ∈ cs, isLiteralChar c = true := by
    intro c hc
    have hplain := isCommentChar_of_not_control (hcontrol c hc) (fun heq => hline (heq ▸ hc))
    have hquote : c ≠ '\'' := fun heq => hsingles (heq ▸ hc)
    simp [isLiteralChar, hplain, hquote]
  have hwrite : StringForm.literal.write cs ++ rest = '\'' :: (cs ++ '\'' :: rest) := by
    simp [StringForm.write, StringForm.delimiter, StringForm.body, StringForm.literal,
      StringForm.quote]
  have hshort : ∀ more, cs ++ '\'' :: rest ≠ '\'' :: '\'' :: more := by
    intro more heq
    cases cs with
    | nil =>
        rw [List.nil_append] at heq
        exact hrest (by rw [(List.cons.inj heq).2]; rfl)
    | cons c cs => exact hsingles (by rw [(List.cons.inj heq).1]; exact List.mem_cons_self)
  have hquote : isLiteralChar '\'' = false := rfl
  rw [hwrite, readString_literal hshort, readLiteral, List.dropWhile_append_of_pos hliteral,
    List.takeWhile_append_of_pos hliteral]
  simp [hquote]

/-- Every string is read back from the form that is chosen for it. -/
theorem readString_write (cs : List Char) (hdouble : rest.head? ≠ some '"')
    (hsingle : rest.head? ≠ some '\'') :
    readString ((StringForm.choose cs).write cs ++ rest) = some (String.ofList cs, rest) := by
  have hplain : (!cs.any StringForm.isControl) = true →
      ∀ c ∈ cs, StringForm.isControl c = false := by
    simp
  unfold StringForm.choose
  simp only
  split
  · exact readString_quoted cs hdouble
  · split
    · rename_i hliteral
      simp only [Bool.and_eq_true, decide_eq_true_eq, Bool.not_eq_true',
        List.contains_eq_mem, decide_eq_false_iff_not] at hliteral
      rcases hliteral with ⟨⟨hcontrol, hsingles⟩, hline⟩
      exact readString_literal_write (hplain (by simpa using hcontrol))
        (not_mem_of_longestRun hsingles) hline hsingle
    · split
      · exact readString_longQuoted cs hdouble
      · split
        · rename_i hliteral
          simp only [Bool.and_eq_true, decide_eq_true_eq] at hliteral
          exact readString_longLiteral (hplain hliteral.1) hliteral.2 hsingle
        · split
          · exact readString_longQuoted cs hdouble
          · exact readString_quoted cs hdouble

end Toml
end RpcHost
