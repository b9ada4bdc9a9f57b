import RpcHost.CommandLine.Reader
import RpcHost.Proofs.CommandLine.Settings
import RpcHost.Proofs.Results

/-!
# Steps of reading a command line

A level holds back the last option whose value is an argument of its own, so what a level stands for
is what it settles (`Level.settled`). One step of reading goes over a group of arguments and adds
its settings to that (`Group.exists_takes`), in the options of the program and in those of a command
alike.
-/

namespace RpcHost
namespace CommandLine

open Files

variable {l : Level} {r : Except Refusal Level} {s : Setting} {settings : List Setting}

/-! ## Own names -/

theorem ofLong?_long {scope : Scope} {f : Flag} (h : f ∈ scope.flags) :
    scope.ofLong? f.long = some f := by
  cases scope <;> cases f <;> first | decide | simp [Scope.flags, Scope.shared] at h

theorem ofShort?_short {scope : Scope} {f : Flag} {c : Char} (h : f ∈ scope.flags)
    (hc : f.short? = some c) : scope.ofShort? c = some f := by
  cases scope <;> cases f <;> simp [Flag.short?] at hc <;> subst hc <;>
    first | decide | simp [Scope.flags, Scope.shared] at h

theorem short_ne_dash {f : Flag} {c : Char} (hc : f.short? = some c) : c ≠ '-' := by
  cases f <;> simp [Flag.short?] at hc <;> subst hc <;> decide

theorem long_chars (f : Flag) : f.long.toList ≠ [] ∧ ∀ c ∈ f.long.toList, c ≠ '=' := by
  cases f <;> simp [Flag.long]

theorem takeWhile_long (f : Flag) (rest : List Char) :
    (f.long.toList ++ rest).takeWhile (· ≠ '=') = f.long.toList ++ rest.takeWhile (· ≠ '=') :=
  List.takeWhile_append_of_pos fun c hc => decide_eq_true ((long_chars f).2 c hc)

theorem takeLong_name {f : Flag} (h : f ∈ l.scope.flags) :
    l.takeLong f.long.toList = if f.takesValue then l.await f else l.switch f := by
  have hname : f.long.toList.takeWhile (· ≠ '=') = f.long.toList := by
    simpa using takeWhile_long f []
  simp only [Level.takeLong, hname, String.ofList_toList, ofLong?_long h, if_true]

theorem takeLong_attached {f : Flag} (h : f ∈ l.scope.flags) (hvalue : f.takesValue = true)
    (v : String) : l.takeLong (f.long.toList ++ '=' :: v.toList) = l.attach f v := by
  have hname : (f.long.toList ++ '=' :: v.toList).takeWhile (· ≠ '=') = f.long.toList := by
    rw [takeWhile_long, List.takeWhile_cons_of_neg (by decide), List.append_nil]
  have hlonger : f.long.toList.length ≠ (f.long.toList ++ '=' :: v.toList).length := by
    simp
  simp only [Level.takeLong, hname, String.ofList_toList, ofLong?_long h, if_neg hlonger, hvalue,
    if_true, List.drop_length_add_append, List.drop_succ_cons, List.drop_zero]

/-! ## What a level stands for -/

def Level.settled (l : Level) : Except Refusal Given :=
  l.settle.map Level.given

/-- A level between two options. Nothing can be wrong with what it holds back, but that it was given
before. -/
structure Calm (scope : Scope) (l : Level) : Prop where
  scope_eq : l.scope = scope
  waiting : l.isWaiting = false
  refusal : ∀ e, l.settled = .error e → e = .argumentConflict

/-- The step leads to a level between two options that stands for these settings. -/
structure Leads (scope : Scope) (r : Except Refusal Level) (outcome : Except Refusal Given) :
    Prop where
  settled : r.bind Level.settled = outcome
  calm : ∀ l, r = .ok l → Calm scope l

theorem Calm.settle_eq {scope : Scope} (h : Calm scope l) :
    l.settle = l.settled.map fun g => ⟨scope, g, .nothing⟩ := by
  rcases l with ⟨_, g, pending⟩
  cases h.scope_eq
  cases pending with
  | nothing => rfl
  | waiting f => cases h.waiting
  | ready f v =>
      simp only [Level.settled, Level.settle]
      cases g.value v f <;> rfl

theorem calm_clean (scope : Scope) (g : Given) : Calm scope ⟨scope, g, .nothing⟩ :=
  ⟨rfl, rfl, fun _ h => by cases h⟩

theorem leads_ok {scope : Scope} (h : Calm scope l) : Leads scope (.ok l) l.settled :=
  ⟨rfl, fun _ hl => by cases hl; exact h⟩

theorem Leads.bind {scope : Scope} {outcome : Except Refusal Given}
    {f : Level → Except Refusal Level} {k : Given → Except Refusal Given}
    (h : Leads scope r outcome) (hf : ∀ l, Calm scope l → Leads scope (f l) (l.settled.bind k)) :
    Leads scope (r.bind f) (outcome.bind k) := by
  cases r with
  | error e =>
      cases h.settled
      exact ⟨rfl, fun l hl => by cases hl⟩
  | ok l =>
      cases h.settled
      exact hf l (h.calm l rfl)

/-! ## One option -/

theorem Given.add_refusal {g : Given} {e : Refusal} (h : g.add s = .error e) :
    e = .argumentConflict := by
  rw [Given.add] at h
  split at h
  · cases h
    rfl
  · cases h

theorem leads_clean {scope : Scope} {outcome : Except Refusal Given} :
    Leads scope (outcome.map fun g => ⟨scope, g, .nothing⟩) outcome := by
  refine ⟨?_, fun l hl => ?_⟩
  · cases outcome <;> rfl
  · rcases map_eq_ok_iff.1 hl with ⟨g, _, rfl⟩
    exact calm_clean scope g

/-- What is pending is settled first, and then the setting is taken in. -/
theorem leads_add {scope : Scope} (give : Scope → Given → Except Refusal Given)
    (h : Calm scope l) (hgive : ∀ g : Given, give scope g = g.add s) :
    Leads scope (do
      let l ← l.settle
      return { l with given := ← give l.scope l.given }) (l.settled.bind fun g => g.add s) := by
  have hadd : (do
      let l ← l.settle
      return { l with given := ← give l.scope l.given }) =
      (l.settled.bind fun g => g.add s).map fun g => (⟨scope, g, .nothing⟩ : Level) := by
    rw [h.settle_eq]
    cases l.settled with
    | error e => rfl
    | ok g =>
        simp only [Except.map, Except.bind, bind, hgive g]
        cases g.add s <;> rfl
  rw [hadd]
  exact leads_clean

theorem leads_switch {scope : Scope} (h : Calm scope l) (hs : s.flag.takesValue = false) :
    Leads scope (l.switch s.flag) (l.settled.bind fun g => g.add s) :=
  leads_add (fun scope g => g.switch scope s.flag) h fun _ => Given.switch_eq_add scope hs

theorem leads_attach {scope : Scope} {v : String} (h : Calm scope l) (hv : ValueText s v) :
    Leads scope (l.attach s.flag v) (l.settled.bind fun g => g.add s) :=
  leads_add (fun _ g => g.value v s.flag) h fun _ => Given.value_eq_add hv

/-- The level that holds back an option with its value. -/
def Level.hold (f : Flag) (v : String) (l : Level) : Level :=
  { l with pending := .ready f v }

theorem leads_await {scope : Scope} {v : String} (h : Calm scope l) (hv : ValueText s v) :
    Leads scope ((l.await s.flag).map (Level.hold s.flag v)) (l.settled.bind fun g => g.add s) := by
  rw [Level.await, h.settle_eq]
  cases l.settled with
  | error e => exact ⟨rfl, fun l hl => by cases hl⟩
  | ok g =>
      have hsettled : Level.settled ⟨scope, g, .ready s.flag v⟩ = g.add s := by
        rw [← Given.value_eq_add hv]
        simp only [Level.settled, Level.settle]
        cases g.value v s.flag <;> rfl
      refine ⟨hsettled, fun l hl => ?_⟩
      cases hl
      exact ⟨rfl, rfl, fun e he => Given.add_refusal (hsettled ▸ he)⟩

/-! ## Letters behind one dash -/

theorem takeShort_switch {scope : Scope} {c : Char} (h : Calm scope l) (hs : s.flag ∈ scope.flags)
    (hc : s.flag.takesValue = false ∧ s.flag.short? = some c) (rest : List Char) :
    l.takeShort (c :: rest) = (l.switch s.flag).bind (Level.takeShort rest) := by
  rw [Level.takeShort, h.scope_eq, ofShort?_short hs hc.2]
  simp only [hc.1]
  rfl

theorem takeShort_attach {scope : Scope} {c : Char} (h : Calm scope l) (hs : s.flag ∈ scope.flags)
    (hc : s.flag.short? = some c) {v : String} (hv : ValueText s v) :
    l.takeShort (c :: '=' :: v.toList) = l.attach s.flag v := by
  rw [Level.takeShort, h.scope_eq, ofShort?_short hs hc]
  simp only [hv.takesValue, if_true, String.ofList_toList]

theorem takeShort_await {scope : Scope} {c : Char} (h : Calm scope l) (hs : s.flag ∈ scope.flags)
    (hc : s.flag.short? = some c) {v : String} (hv : ValueText s v) :
    l.takeShort [c] = l.await s.flag := by
  rw [Level.takeShort, h.scope_eq, ofShort?_short hs hc]
  simp only [hv.takesValue, if_true]

theorem leads_letters {scope : Scope} {letters : List Char} (hletters : Letters settings letters)
    (h : Calm scope l) (hscope : ∀ s ∈ settings, s.flag ∈ scope.flags) :
    Leads scope (l.takeShort letters) (l.settled.bind fun g => g.addAll settings) := by
  induction hletters generalizing l with
  | nil =>
      rw [bind_addAll_nil]
      exact leads_ok h
  | @cons s c settings letters hc _ ih =>
      rcases List.forall_mem_cons.1 hscope with ⟨hs, hmore⟩
      have hadd : l.settled.bind (fun g => g.addAll (s :: settings)) =
          (l.settled.bind fun g => g.add s).bind fun g => g.addAll settings := by
        cases l.settled <;> rfl
      rw [takeShort_switch h hs hc, hadd]
      exact (leads_switch h hc.1).bind fun l hl => ih hl hmore

/-- The switches are taken one by one, and then what follows them. -/
theorem takeShort_append {scope : Scope} {letters rest : List Char}
    {f : Level → Except Refusal Level} (hletters : Letters settings letters) (h : Calm scope l)
    (hscope : ∀ s ∈ settings, s.flag ∈ scope.flags)
    (hrest : ∀ l, Calm scope l → l.takeShort rest = f l) :
    l.takeShort (letters ++ rest) = (l.takeShort letters).bind f := by
  induction hletters generalizing l with
  | nil => exact hrest l h
  | @cons s c settings letters hc _ ih =>
      rcases List.forall_mem_cons.1 hscope with ⟨hs, hmore⟩
      rw [List.cons_append, takeShort_switch h hs hc, takeShort_switch h hs hc]
      cases hswitch : l.switch s.flag with
      | error e => rfl
      | ok next => exact ih ((leads_switch h hc.1).calm next hswitch) hmore

theorem leads_last {scope : Scope} {letters : List Char} {f : Level → Except Refusal Level}
    (hletters : Letters settings letters) (h : Calm scope l)
    (hscope : ∀ s ∈ settings, s.flag ∈ scope.flags)
    (hf : ∀ l, Calm scope l → Leads scope (f l) (l.settled.bind fun g => g.add s)) :
    Leads scope ((l.takeShort letters).bind f)
      (l.settled.bind fun g => g.addAll (settings ++ [s])) := by
  simp only [bind_addAll_append, Given.addAll_singleton]
  exact (leads_letters hletters h hscope).bind hf

/-! ## A group of arguments -/

/-- Both readers go over the arguments with this step. -/
structure Takes (l : Level) (args : List String) (r : Except Refusal Level) : Prop where
  options : ∀ more, readOptions none (args ++ more) l = r.bind (readOptions none more)
  line : ∀ more, readLine none (args ++ more) l = r.bind (readLine none more)

theorem ofString?_of_dash {arg : String} {cs : List Char} (h : arg.toList = '-' :: cs) :
    CommandName.ofString? arg = none := by
  have hname : ∀ name : String, name.toList.head? ≠ some '-' → arg ≠ name := by
    rintro name hname rfl
    simp [h] at hname
  unfold CommandName.ofString?
  split
  · exact absurd rfl (hname "serve" (by decide))
  · exact absurd rfl (hname "config" (by decide))
  · exact absurd rfl (hname "help" (by decide))
  · rfl

theorem takes_option {arg : String} {cs : List Char} (hdash : arg.toList = '-' :: cs)
    (hmore : arg ≠ "--") (htake : l.take arg = r.map some) : Takes l [arg] r := by
  have hcommand : l.command? arg = none := by
    rw [Level.command?, ofString?_of_dash hdash, ite_self]
  refine ⟨fun more => ?_, fun more => ?_⟩
  · rw [List.singleton_append, readOptions, htake]
    · cases r <;> rfl
    · exact fun harg _ => hmore harg
    · exact hmore
  · simp only [List.singleton_append, readLine, hcommand, htake, if_neg hmore]
    cases r <;> rfl

theorem take_value {f : Flag} {v : String} (hl : l.pending = .waiting f)
    (hdash : v.toList.head? ≠ some '-') : l.take v = .ok (some (l.hold f v)) := by
  rw [Level.take, hl]
  split
  · rename_i hv
    simp [hv] at hdash
  · rename_i hv
    simp [hv] at hdash
  · rename_i hpending _ _
    cases hpending
    rfl
  · rename_i hwaiting
    exact absurd rfl (hwaiting f)

theorem takes_value {f : Flag} {v : String} (hl : l.pending = .waiting f)
    (hdash : v.toList.head? ≠ some '-') : Takes l [v] (.ok (l.hold f v)) := by
  have hmore : v ≠ "--" := by
    rintro rfl
    exact hdash rfl
  have hcommand : l.command? v = none := by
    rw [Level.command?, Level.isWaiting, hl]
    rfl
  refine ⟨fun more => ?_, fun more => ?_⟩
  · rw [List.singleton_append, readOptions, take_value hl hdash]
    · rfl
    · exact fun harg _ => hmore harg
    · exact hmore
  · simp only [List.singleton_append, readLine, hcommand, take_value hl hdash, if_neg hmore]
    rfl

theorem Takes.append {args rest : List String} {f : Level → Except Refusal Level}
    (h : Takes l args r) (hrest : ∀ l, r = .ok l → Takes l rest (f l)) :
    Takes l (args ++ rest) (r.bind f) := by
  refine ⟨fun more => ?_, fun more => ?_⟩
  · rw [List.append_assoc, h.options]
    cases r with
    | error e => rfl
    | ok l => exact (hrest l rfl).options more
  · rw [List.append_assoc, h.line]
    cases r with
    | error e => rfl
    | ok l => exact (hrest l rfl).line more

/-- An argument that leaves an option waiting, and the value for it. -/
theorem takes_waiting {f : Flag} {arg v : String} {cs : List Char} (hdash : arg.toList = '-' :: cs)
    (hmore : arg ≠ "--") (htake : l.take arg = r.map some)
    (hwait : ∀ next, r = .ok next → next.pending = .waiting f) (hv : v.toList.head? ≠ some '-') :
    Takes l [arg, v] (r.map (Level.hold f v)) := by
  have hmap : r.map (Level.hold f v) = r.bind fun next => .ok (next.hold f v) := by
    cases r <;> rfl
  rw [hmap]
  exact (takes_option hdash hmore htake).append fun next hnext => takes_value (hwait next hnext) hv

theorem pending_await {scope : Scope} {f : Flag} {next : Level} (h : Calm scope l)
    (hnext : l.await f = .ok next) : next.pending = .waiting f := by
  rw [Level.await, h.settle_eq] at hnext
  cases hsettled : l.settled with
  | error e => simp [hsettled, bind, Except.map, Except.bind] at hnext
  | ok g =>
      rw [hsettled] at hnext
      cases hnext
      rfl

/-! ## Groups -/

theorem take_long (l : Level) {arg : String} {cs : List Char} (h : arg.toList = '-' :: '-' :: cs)
    (hne : cs ≠ []) : l.take arg = (l.takeLong cs).map some ∧ arg ≠ "--" := by
  refine ⟨?_, ?_⟩
  · simp only [Level.take, h]
    cases l.takeLong cs <;> rfl
  · rintro rfl
    simp at h
    exact hne h

theorem take_short (l : Level) {arg : String} {cs : List Char} (h : arg.toList = '-' :: cs)
    (hne : cs ≠ []) (hdash : cs.head? ≠ some '-') :
    l.take arg = (l.takeShort cs).map some ∧ arg ≠ "--" := by
  refine ⟨?_, ?_⟩
  · rw [Level.take, h]
    split
    · rename_i hcs
      simp [(List.cons.inj hcs).2] at hdash
    · rename_i hcs
      rw [(List.cons.inj hcs).2]
      cases l.takeShort _ <;> rfl
    · rename_i hcs
      cases cs with
      | nil => exact absurd rfl hne
      | cons c cs => exact absurd rfl (hcs c cs)
    · rename_i hcs _
      cases cs with
      | nil => exact absurd rfl hne
      | cons c cs => exact absurd rfl (hcs c cs)
  · rintro rfl
    simp at h
    simp [← h] at hdash

theorem Letters.head_append {letters : List Char} (hletters : Letters settings letters)
    (rest : List Char) (hrest : rest.head? ≠ some '-') : (letters ++ rest).head? ≠ some '-' := by
  cases hletters with
  | nil => exact hrest
  | cons hc _ => simpa using short_ne_dash hc.2

/-- The reader goes over a group of arguments, and from then on the level stands for its settings
too. -/
theorem Group.exists_takes {scope : Scope} {args : List String} (hgroup : Group settings args)
    (h : Calm scope l) (hscope : ∀ s ∈ settings, s.flag ∈ scope.flags) :
    ∃ r, Takes l args r ∧ Leads scope r (l.settled.bind fun g => g.addAll settings) := by
  cases hgroup with
  | @switch s hs =>
      have hlong : ("--" ++ s.flag.long).toList = '-' :: '-' :: s.flag.long.toList := by
        simp
      rcases take_long l hlong (long_chars s.flag).1 with ⟨htake, hmore⟩
      rw [takeLong_name (h.scope_eq ▸ hscope s List.mem_cons_self), hs] at htake
      simp only [Given.addAll_singleton]
      exact ⟨_, takes_option hlong hmore htake, leads_switch h hs⟩
  | @attached s v hv =>
      have hlong : ("--" ++ s.flag.long ++ "=" ++ v).toList
          = '-' :: '-' :: (s.flag.long.toList ++ '=' :: v.toList) := by
        simp
      rcases take_long l hlong (by simp) with ⟨htake, hmore⟩
      rw [takeLong_attached (h.scope_eq ▸ hscope s List.mem_cons_self) hv.takesValue] at htake
      simp only [Given.addAll_singleton]
      exact ⟨_, takes_option hlong hmore htake, leads_attach h hv⟩
  | @separate s v hv hdash =>
      have hlong : ("--" ++ s.flag.long).toList = '-' :: '-' :: s.flag.long.toList := by
        simp
      rcases take_long l hlong (long_chars s.flag).1 with ⟨htake, hmore⟩
      rw [takeLong_name (h.scope_eq ▸ hscope s List.mem_cons_self), hv.takesValue] at htake
      simp only [Given.addAll_singleton]
      exact ⟨_, takes_waiting hlong hmore htake (fun next => pending_await h) hdash,
        leads_await h hv⟩
  | @letters switches letters hne hletters =>
      have hhead : letters.head? ≠ some '-' := by
        simpa using hletters.head_append [] (by simp)
      rcases take_short l String.toList_ofList hne hhead with ⟨htake, hmore⟩
      exact ⟨_, takes_option String.toList_ofList hmore htake, leads_letters hletters h hscope⟩
  | @lettersAttached switches letters s c v hletters hc hv =>
      rcases List.forall_mem_append.1 hscope with ⟨hswitches, hlast⟩
      have hs : s.flag ∈ scope.flags := hlast s List.mem_cons_self
      have hhead : (letters ++ c :: '=' :: v.toList).head? ≠ some '-' :=
        hletters.head_append _ (by simpa using short_ne_dash hc)
      rcases take_short l String.toList_ofList (by simp) hhead with ⟨htake, hmore⟩
      rw [takeShort_append hletters h hswitches fun l hl => takeShort_attach hl hs hc hv] at htake
      exact ⟨_, takes_option String.toList_ofList hmore htake,
        leads_last hletters h hswitches fun l hl => leads_attach hl hv⟩
  | @lettersSeparate switches letters s c v hletters hc hv hdash =>
      rcases List.forall_mem_append.1 hscope with ⟨hswitches, hlast⟩
      have hs : s.flag ∈ scope.flags := hlast s List.mem_cons_self
      have hhead : (letters ++ [c]).head? ≠ some '-' :=
        hletters.head_append _ (by simpa using short_ne_dash hc)
      rcases take_short l String.toList_ofList (by simp) hhead with ⟨htake, hmore⟩
      rw [takeShort_append hletters h hswitches fun l hl => takeShort_await hl hs hc hv] at htake
      have hwait : ∀ next, (l.takeShort letters).bind (Level.await s.flag) = .ok next →
          next.pending = .waiting s.flag := by
        intro next hnext
        rcases bind_eq_ok_iff.1 hnext with ⟨last, hlast, hawait⟩
        exact pending_await ((leads_letters hletters h hswitches).calm last hlast) hawait
      refine ⟨_, takes_waiting String.toList_ofList hmore htake hwait hdash, ?_⟩
      have hmap : ((l.takeShort letters).bind (Level.await s.flag)).map (Level.hold s.flag v) =
          (l.takeShort letters).bind fun l => (l.await s.flag).map (Level.hold s.flag v) := by
        cases l.takeShort letters <;> rfl
      rw [hmap]
      exact leads_last hletters h hswitches fun l hl => leads_await hl hv

end CommandLine
end RpcHost
