import RpcHost.Proofs.CommandLine.Steps

/-!
# Command lines that spell their options

Every spelling of options is read as these options. A level is read by induction on its groups of
arguments, and the line from its two levels; then the order is forgotten. The main statement is
`command_line_means_what_it_spells`.
-/

namespace RpcHost
namespace CommandLine

open Files

variable {l : Level} {s : Setting} {settings : List Setting}

/-! ## Levels -/

/-- A reader that goes over arguments with the step of `Takes` goes over all that spells settings,
and then depends on what they come to. The induction is on the groups. -/
theorem Spells.read_append {α : Type} {scope : Scope} {args rest : List String}
    {read : List String → Level → Except Refusal α} {k : Given → Except Refusal α}
    (hread : ∀ {l args r}, Takes l args r → ∀ more, read (args ++ more) l = r.bind (read more))
    (hrest : ∀ l, Calm scope l → read rest l = l.settled.bind k)
    (hargs : Spells settings args) (h : Calm scope l)
    (hscope : ∀ s ∈ settings, s.flag ∈ scope.flags) :
    read (args ++ rest) l = (l.settled.bind fun g => g.addAll settings).bind k := by
  induction hargs generalizing l with
  | nil =>
      rw [bind_addAll_nil]
      exact hrest l h
  | @cons settings more args behind hgroup _ ih =>
      rcases List.forall_mem_append.1 hscope with ⟨hsettings, hmore⟩
      rcases hgroup.exists_takes h hsettings with ⟨r, htakes, hleads⟩
      rw [List.append_assoc, hread htakes, bind_addAll_append, ← hleads.settled]
      cases r with
      | error e => rfl
      | ok next => exact ih (hleads.calm next rfl) hmore

@[simp] theorem close_none (l : Level) : l.close none = l.settled := by
  simp only [Level.close, Level.settled]
  cases l.settle with
  | error e => rfl
  | ok l => simp [bind, Except.bind, Except.map, pure, Except.pure]

theorem Spells.readOptions_eq {scope : Scope} {args : List String} (hargs : Spells settings args)
    (hscope : ∀ s ∈ settings, s.flag ∈ scope.flags) :
    readOptions none args ⟨scope, {}, .nothing⟩ = ({} : Given).addAll settings := by
  have hend : ∀ l, Calm scope l → readOptions none [] l = l.settled.bind .ok := by
    intro l _
    rw [readOptions, close_none]
    cases l.settled <;> rfl
  have hall := hargs.read_append Takes.options hend (calm_clean scope {}) hscope
  rw [List.append_nil] at hall
  rw [hall]
  show (({} : Given).addAll settings).bind .ok = _
  cases ({} : Given).addAll settings <;> rfl

/-! ## The whole line -/

/-- The command with what was given for it. -/
def Command.ofGiven : Command → Given → Command
  | .serve _, g => .serve g.serve
  | .config _, g => .config g.manage

theorem readLine_command {command : Command} {back : List String} (h : l.isWaiting = false) :
    readLine none (command.name :: back) l = do
      let inner ← readOptions none back ⟨command.scope, {}, .nothing⟩
      return combine none (← l.settled) inner (command.ofGiven inner) := by
  cases command with
  | serve o =>
      simp only [Command.name, readLine, Level.command?, h, CommandName.ofString?, readCommand,
        close_none]
      rfl
  | config o =>
      simp only [Command.name, readLine, Level.command?, h, CommandName.ofString?, readCommand,
        close_none]
      rfl

/-- Two results of levels can be looked at in either order: there is one way only to be refused. -/
theorem bind_comm_of_refusal {α β γ : Type} {x : Except Refusal α} {y : Except Refusal β}
    (hx : ∀ e, x = .error e → e = .argumentConflict)
    (hy : ∀ e, y = .error e → e = .argumentConflict) (f : α → β → Except Refusal γ) :
    (x.bind fun a => y.bind fun b => f a b) = y.bind fun b => x.bind fun a => f a b := by
  cases x with
  | ok a => cases y <;> rfl
  | error e =>
      cases hx e rfl
      cases y with
      | ok b => rfl
      | error e =>
          cases hy e rfl
          rfl

theorem Given.addAll_refusal {g : Given} {e : Refusal} (h : g.addAll settings = .error e) :
    e = .argumentConflict := by
  by_cases hfresh : Fresh g settings
  · rw [Given.addAll_of_fresh hfresh] at h
    cases h
  · rw [Given.addAll_of_not_fresh hfresh] at h
    cases h
    rfl

theorem read_spelled {command : Command} {before after : List Setting} {front back : List String}
    (hfront : Spells before front) (hback : Spells after back)
    (hbefore : ∀ s ∈ before, s.flag ∈ Scope.program.flags)
    (hafter : ∀ s ∈ after, s.flag ∈ command.scope.flags) :
    read none (front ++ command.name :: back) =
      (({} : Given).addAll before).bind fun outer => (({} : Given).addAll after).bind fun inner =>
        .ok (combine none outer inner (command.ofGiven inner)) := by
  refine hfront.read_append Takes.line (fun l hl => ?_) (calm_clean .program {}) hbefore
  rw [readLine_command hl.waiting, hback.readOptions_eq hafter]
  exact bind_comm_of_refusal (fun e => Given.addAll_refusal) hl.refusal _

/-! ## Command lines in any order -/

theorem flag_of_mem_shared {n : Nat} {config : Option Path} {debugHere configHere : Bool}
    (h : s ∈ sharedSettings n config debugHere configHere) :
    s.flag = .debug ∨ s.flag = .config := by
  rcases List.mem_append.1 h with hdebug | hconfig
  · split at hdebug
    · exact .inl (by rw [List.eq_of_mem_replicate hdebug, Setting.flag])
    · cases hdebug
  · split at hconfig
    · rcases List.mem_map.1 hconfig with ⟨path, _, rfl⟩
      exact .inr rfl
    · cases hconfig

theorem flag_of_mem_settings {command : Command} :
    ∀ s ∈ command.settings, s.flag ∈ command.scope.flags ∧ s.flag ≠ .debug ∧ s.flag ≠ .config := by
  cases command with
  | serve o =>
      rcases o with ⟨address, port, workers, cors⟩
      cases address <;> cases port <;> cases workers <;> cases cors <;>
        simp [Command.settings, ServeOptions.settings, Command.scope, Scope.flags, Setting.flag]
  | config o =>
      rcases o with ⟨path, init, global, force⟩
      cases path <;> cases init <;> cases global <;> cases force <;>
        simp [Command.settings, ConfigOptions.settings, Command.scope, Scope.flags, Setting.flag]

theorem apart_settings (command : Command) : Apart command.settings := by
  cases command with
  | serve o =>
      rcases o with ⟨address, port, workers, cors⟩
      cases address <;> cases port <;> cases workers <;> cases cors <;>
        simp [Apart, Command.settings, ServeOptions.settings, Setting.flag]
  | config o =>
      rcases o with ⟨path, init, global, force⟩
      cases path <;> cases init <;> cases global <;> cases force <;>
        simp [Apart, Command.settings, ConfigOptions.settings, Setting.flag]

theorem apart_shared (n : Nat) (config : Option Path) (debugHere configHere : Bool) :
    Apart (sharedSettings n config debugHere configHere) := by
  refine List.pairwise_append.2 ⟨?_, ?_, fun s hs t _ _ => ?_⟩
  · split
    · exact List.pairwise_replicate.2 (.inr fun _ => rfl)
    · exact List.Pairwise.nil
  · split
    · cases config with
      | none => exact List.Pairwise.nil
      | some path => exact List.pairwise_singleton _ _
    · exact List.Pairwise.nil
  · split at hs
    · rw [List.eq_of_mem_replicate hs, Setting.flag]
    · cases hs

theorem apart_behind (n : Nat) (config : Option Path) (command : Command)
    (debugHere configHere : Bool) :
    Apart (sharedSettings n config debugHere configHere ++ command.settings) := by
  refine List.pairwise_append.2 ⟨apart_shared n config debugHere configHere,
    apart_settings command, fun s hs t ht hst => ?_⟩
  rcases flag_of_mem_shared hs with hdebug | hconfig
  · exact hdebug
  · exact absurd (hst ▸ hconfig) (flag_of_mem_settings t ht).2.2

theorem Given.put_shared (n : Nat) (config : Option Path) (debugHere configHere : Bool) :
    (sharedSettings n config debugHere configHere).foldl Given.put {} =
      { debug := if debugHere ∧ n ≠ 0 then some (UInt8.ofNat (min n 255)) else none,
        config := if configHere then config else none } := by
  have hdebugs : (List.replicate n Setting.debug).foldl Given.put {} =
      { debug := if n ≠ 0 then some (UInt8.ofNat (min n 255)) else none } := by
    cases n with
    | zero => rfl
    | succ n =>
        rw [Given.put_debugs]
        simp
  cases debugHere <;> cases configHere <;> cases config <;>
    simp [sharedSettings, hdebugs, Given.put]

theorem Given.put_command (command : Command) (debug : Option UInt8) (config : Option Path) :
    ∃ g, command.settings.foldl Given.put { debug := debug, config := config } = g
      ∧ g.debug = debug ∧ g.config = config ∧ command.ofGiven g = command := by
  cases command with
  | serve o => exact ⟨_, Given.put_serve o _ rfl, rfl, rfl, rfl⟩
  | config o => exact ⟨_, Given.put_manage o _ rfl, rfl, rfl, rfl⟩

/-- What is given in the end does not depend on the order. -/
theorem addAll_of_perm {others : List Setting} (hperm : settings.Perm others)
    (hapart : Apart others) :
    ({} : Given).addAll settings = .ok (others.foldl Given.put {}) := by
  have hsettings : Apart settings := hapart.of_perm hperm.symm
  have hfresh : Fresh {} settings := ⟨fun s _ => by cases s.flag <;> rfl, hsettings⟩
  rw [Given.addAll_of_fresh hfresh, hsettings.foldl_put_of_perm hperm]

/-- An option that is given again. -/
theorem addAll_of_again {others : List Setting} {s again : Setting} (hs : s ∈ others)
    (hvalue : s.flag.takesValue = true) (hagain : again.flag = s.flag)
    (hperm : settings.Perm (again :: others)) :
    ({} : Given).addAll settings = .error .argumentConflict := by
  refine Given.addAll_of_not_fresh fun hfresh => ?_
  have hapart : Apart (again :: others) := hfresh.apart.of_perm hperm
  have hdebug : again.flag = .debug := (List.pairwise_cons.1 hapart).1 s hs hagain
  rw [← hagain, hdebug] at hvalue
  cases hvalue

theorem flags_of_again {others : List Setting} {scope : Scope} {again : Setting}
    (hscope : ∀ s ∈ others, s.flag ∈ scope.flags) (hs : s ∈ others) (hagain : again.flag = s.flag)
    (hperm : settings.Perm (again :: others)) : ∀ s ∈ settings, s.flag ∈ scope.flags := by
  intro t ht
  rcases List.mem_cons.1 (hperm.mem_iff.1 ht) with rfl | hother
  · exact hagain ▸ hscope s hs
  · exact hscope t hother

theorem flags_before {scope : Scope} {n : Nat} {config : Option Path} {debugHere configHere : Bool}
    (hperm : settings.Perm (sharedSettings n config debugHere configHere)) :
    ∀ s ∈ settings, s.flag ∈ scope.flags := by
  have hshared : Flag.debug ∈ scope.flags ∧ Flag.config ∈ scope.flags := by
    cases scope <;> decide
  intro s hs
  rcases flag_of_mem_shared (hperm.mem_iff.1 hs) with hdebug | hconfig
  · exact hdebug ▸ hshared.1
  · exact hconfig ▸ hshared.2

theorem flags_after {n : Nat} {config : Option Path} {command : Command}
    {debugHere configHere : Bool}
    (hperm : settings.Perm (sharedSettings n config debugHere configHere ++ command.settings)) :
    ∀ s ∈ settings, s.flag ∈ command.scope.flags := by
  intro s hs
  rcases List.mem_append.1 (hperm.mem_iff.1 hs) with hshared | hcommand
  · exact flags_before (List.Perm.refl _) s hshared
  · exact (flag_of_mem_settings s hcommand).1

/-- Options in any order and any spelling, each on either side of the command, are read as the
command with these options. A second value for one of them on the same side is refused. -/
theorem command_line_means_what_it_spells (n : Nat) (config : Option Path) (command : Command)
    (debugFirst configFirst : Bool) {before after : List Setting} {front back : List String}
    (hbefore : before.Perm (sharedSettings n config debugFirst configFirst))
    (hafter : after.Perm
      (sharedSettings n config (!debugFirst) (!configFirst) ++ command.settings))
    (hfront : Spells before front) (hback : Spells after back) :
    read none (front ++ command.name :: back) =
        .ok ⟨UInt8.ofNat (min n 255), config, command⟩
    ∧ (∀ s ∈ before, s.flag.takesValue = true → ∀ again : Setting, again.flag = s.flag →
        ∀ twice args, twice.Perm (again :: before) → Spells twice args →
          read none (args ++ command.name :: back) = .error .argumentConflict)
    ∧ (∀ s ∈ after, s.flag.takesValue = true → ∀ again : Setting, again.flag = s.flag →
        ∀ twice args, twice.Perm (again :: after) → Spells twice args →
          read none (front ++ command.name :: args) = .error .argumentConflict) := by
  have hprogram : ∀ s ∈ before, s.flag ∈ Scope.program.flags := flags_before hbefore
  have hcommand : ∀ s ∈ after, s.flag ∈ command.scope.flags := flags_after hafter
  have houter := addAll_of_perm hbefore (apart_shared n config debugFirst configFirst)
  have hinner := addAll_of_perm hafter (apart_behind n config command (!debugFirst) (!configFirst))
  refine ⟨?_, ?_, ?_⟩
  · rw [List.foldl_append, Given.put_shared] at hinner
    rcases Given.put_command command _ _ with ⟨inner, hgiven, hdebug, hconfig, hname⟩
    rw [hgiven] at hinner
    rw [read_spelled hfront hback hprogram hcommand, houter, hinner, Given.put_shared]
    simp only [Except.bind, combine, hdebug, hconfig, hname]
    cases debugFirst <;> cases configFirst <;> cases n <;> cases config <;> simp
  · intro s hs hvalue again hagain twice args hperm hargs
    rw [read_spelled hargs hback (flags_of_again hprogram hs hagain hperm) hcommand,
      addAll_of_again hs hvalue hagain hperm]
    rfl
  · intro s hs hvalue again hagain twice args hperm hargs
    rw [read_spelled hfront hargs hprogram (flags_of_again hcommand hs hagain hperm), houter,
      addAll_of_again hs hvalue hagain hperm]
    rfl

/-- Counted options on one side, a configuration named like a command on the other. -/
theorem command_line_means_what_it_spells_on_both_sides :
    read none ["-DD", "--debug", "serve", "-w=+5", "-c", "serve", "--listen-port", "007",
        "--allow-cors"] =
      .ok ⟨3, some ⟨"serve"⟩, .serve { listenPort := some 7, workers := some 5, allowCors := true }⟩
    ∧ read none ["-DD", "--debug", "serve", "-l=8", "-w=+5", "-c", "serve", "--listen-port", "007",
        "--allow-cors"] = .error .argumentConflict := by
  have hcount : Letters [.debug, .debug] ['D', 'D'] :=
    .cons ⟨rfl, rfl⟩ (.cons ⟨rfl, rfl⟩ .nil)
  have hfront : Spells [.debug, .debug, .debug] ["-DD", "--debug"] :=
    .cons (.letters (by decide) hcount) (.cons (.switch rfl) .nil)
  have hworkers : Group [.workers 5] ["-w=+5"] :=
    .lettersAttached (s := .workers 5) (c := 'w') (v := "+5") .nil rfl (.workers (.plus 0))
  have hconfig : Group [.config ⟨"serve"⟩] ["-c", "serve"] :=
    .lettersSeparate (s := .config ⟨"serve"⟩) (c := 'c') .nil rfl (.config (by decide)) (by decide)
  have hport : Group [.listenPort 7] ["--listen-port", "007"] :=
    .separate (s := .listenPort 7) (.listenPort (.plain 2)) (by decide)
  have hcors : Group [.allowCors] ["--allow-cors"] :=
    .switch (s := .allowCors) rfl
  have hsecond : Group [.listenPort 8] ["-l=8"] :=
    .lettersAttached (s := .listenPort 8) (c := 'l') (v := "8") .nil rfl (.listenPort (.plain 0))
  have hback : Spells [.workers 5, .config ⟨"serve"⟩, .listenPort 7, .allowCors]
      ["-w=+5", "-c", "serve", "--listen-port", "007", "--allow-cors"] :=
    .cons hworkers (.cons hconfig (.cons hport (.cons hcors .nil)))
  have hagain : Spells [.listenPort 8, .workers 5, .config ⟨"serve"⟩, .listenPort 7, .allowCors]
      ["-l=8", "-w=+5", "-c", "serve", "--listen-port", "007", "--allow-cors"] :=
    .cons hsecond hback
  have hall := command_line_means_what_it_spells 3 (some ⟨"serve"⟩)
    (.serve { listenPort := some 7, workers := some 5, allowCors := true }) true false
    (by decide) (by decide) hfront hback
  exact ⟨hall.1, hall.2.2 (.listenPort 7) (by decide) rfl (.listenPort 8) rfl _ _ (.refl _) hagain⟩

end CommandLine
end RpcHost
