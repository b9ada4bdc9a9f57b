import RpcHost.CommandLine.Level
import RpcHost.CommandLine.Spelling
import RpcHost.Proofs.Net.ListenAddress

/-!
# Settings put together

What a level has settled after a list of settings: each of them is added to those before it
(`Given.add`), and refused when it stands there already. The order does not matter
(`addAll_of_perm`), since settings of different options do not meet.
-/

namespace RpcHost
namespace CommandLine

open Files

variable {s t : Setting} {g : Given}

/-! ## One setting -/

/-- The option was given. The debug option may be given again. -/
def Given.has (g : Given) : Flag → Bool
  | .config => g.config.isSome
  | .listenAddress => g.serve.listenAddress.isSome
  | .listenPort => g.serve.listenPort.isSome
  | .workers => g.serve.workers.isSome
  | .allowCors => g.serve.allowCors
  | .path => g.manage.path
  | .init => g.manage.init
  | .global => g.manage.global
  | .force => g.manage.force
  | .debug | .help | .version => false

def Given.put (g : Given) : Setting → Given
  | .debug => { g with debug := some (if g.debug.getD 0 = 255 then 255 else g.debug.getD 0 + 1) }
  | .config path => { g with config := some path }
  | .listenAddress address => { g with serve := { g.serve with listenAddress := some address } }
  | .listenPort port => { g with serve := { g.serve with listenPort := some port } }
  | .workers count => { g with serve := { g.serve with workers := some count } }
  | .allowCors => { g with serve := { g.serve with allowCors := true } }
  | .path => { g with manage := { g.manage with path := true } }
  | .init => { g with manage := { g.manage with init := true } }
  | .global => { g with manage := { g.manage with global := true } }
  | .force => { g with manage := { g.manage with force := true } }

def Given.add (g : Given) (s : Setting) : Except Refusal Given :=
  if g.has s.flag then .error .argumentConflict else .ok (g.put s)

theorem Given.switch_eq_add (scope : Scope) (hs : s.flag.takesValue = false) :
    g.switch scope s.flag = g.add s := by
  cases s <;> first | rfl | cases hs

theorem decimal?_numeral (n zeros : Nat) :
    decimal? (List.replicate zeros '0' ++ Nat.toDigits 10 n) = some n := by
  have hdigits : ∀ c ∈ List.replicate zeros '0' ++ Nat.toDigits 10 n,
      Net.isAsciiDigit c = true := by
    intro c hc
    rw [Net.isAsciiDigit_eq]
    rcases List.mem_append.1 hc with hzero | hdigit
    · rw [List.eq_of_mem_replicate hzero]
      rfl
    · exact Nat.isDigit_of_mem_toDigits (by decide) (by decide) hdigit
  have hvalue : (List.replicate zeros '0' ++ Nat.toDigits 10 n).foldl
      (fun n c => 10 * n + (c.toNat - '0'.toNat)) 0 = n := by
    rw [← Nat.ofDigitChars_eq_foldl, Nat.ofDigitChars_append, Nat.ofDigitChars_replicate_zero,
      Nat.mul_zero, Nat.ofDigitChars_ten_toDigits]
  have hne : List.replicate zeros '0' ++ Nat.toDigits 10 n ≠ [] :=
    List.append_ne_nil_of_right_ne_nil _ Nat.toDigits_ne_nil
  rw [decimal?, if_neg (by simp [hne, List.all_eq_true.2 hdigits]), hvalue]

/-- A number without a plus sign begins with a digit. -/
theorem head_numeral (n zeros : Nat) :
    ∃ c cs, List.replicate zeros '0' ++ Nat.toDigits 10 n = c :: cs ∧ c.isDigit = true := by
  cases zeros with
  | zero => simpa using Text.toDigits_cons n
  | succ zeros => exact ⟨'0', List.replicate zeros '0' ++ Nat.toDigits 10 n, rfl, rfl⟩

theorem Numeral.unsigned?_eq {n : Nat} {cs : List Char} (h : Numeral n cs) :
    unsigned? cs = some n ∧ cs.head? ≠ some '-' := by
  cases h with
  | plain zeros =>
      rcases head_numeral n zeros with ⟨c, cs, hcs, hc⟩
      have hplus : c ≠ '+' := by
        rintro rfl
        cases hc
      have hminus : c ≠ '-' := by
        rintro rfl
        cases hc
      rw [← decimal?_numeral n zeros, hcs, unsigned?]
      · simpa using hminus
      · simpa using hplus
  | plus zeros => exact ⟨decimal?_numeral n zeros, by simp⟩

theorem port?_of_numeral {port : UInt16} {v : String} (h : Numeral port.toNat v.toList) :
    port? v = some port := by
  rcases h.unsigned?_eq with ⟨hvalue, hminus⟩
  rw [port?]
  split
  · rename_i cs hcs
    simp [hcs] at hminus
  · rw [hvalue]
    simp [port.toNat_lt]

theorem word?_of_numeral {count : UInt64} {v : String} (h : Numeral count.toNat v.toList) :
    word? v = some count := by
  rw [word?, h.unsigned?_eq.1]
  simp [count.toNat_lt]

theorem ValueText.takesValue {v : String} (h : ValueText s v) : s.flag.takesValue = true := by
  cases h <;> rfl

theorem Given.value_eq_add {v : String} (h : ValueText s v) : g.value v s.flag = g.add s := by
  cases h with
  | config hv =>
      simp only [Given.value, Setting.flag, if_neg hv]
      rfl
  | listenAddress v => rfl
  | listenPort hv =>
      simp only [Given.value, Setting.flag, port?_of_numeral hv]
      rfl
  | workers hv =>
      simp only [Given.value, Setting.flag, word?_of_numeral hv]
      rfl

/-! ## Several settings -/

def Given.addAll (g : Given) (settings : List Setting) : Except Refusal Given :=
  settings.foldlM Given.add g

theorem Given.addAll_cons (g : Given) (s : Setting) (settings : List Setting) :
    g.addAll (s :: settings) = (g.add s).bind fun g => g.addAll settings :=
  List.foldlM_cons

theorem Given.addAll_append (g : Given) (front back : List Setting) :
    g.addAll (front ++ back) = (g.addAll front).bind fun g => g.addAll back :=
  List.foldlM_append

@[simp] theorem Given.addAll_singleton (g : Given) (s : Setting) : g.addAll [s] = g.add s := by
  rw [Given.addAll_cons]
  cases g.add s <;> rfl

theorem bind_addAll_nil (x : Except Refusal Given) : (x.bind fun g => g.addAll []) = x := by
  cases x <;> rfl

theorem bind_addAll_append (x : Except Refusal Given) (front back : List Setting) :
    (x.bind fun g => g.addAll (front ++ back)) =
      (x.bind fun g => g.addAll front).bind fun g => g.addAll back := by
  cases x with
  | error e => rfl
  | ok g => exact g.addAll_append front back

/-- No option is there twice, but for the debug option. -/
def Apart (settings : List Setting) : Prop :=
  settings.Pairwise fun s t => s.flag = t.flag → s.flag = .debug

/-- None of the settings meets another one, or one that was given before. -/
structure Fresh (g : Given) (settings : List Setting) : Prop where
  new : ∀ s ∈ settings, g.has s.flag = false
  apart : Apart settings

theorem Given.has_put (g : Given) (s : Setting) (f : Flag) :
    (g.put s).has f = true ↔ (s.flag = f ∧ f ≠ .debug) ∨ g.has f = true := by
  cases s <;> cases f <;> simp [Given.has, Given.put, Setting.flag]

theorem fresh_nil (g : Given) : Fresh g [] :=
  ⟨by simp, List.Pairwise.nil⟩

theorem fresh_cons {settings : List Setting} :
    Fresh g (s :: settings) ↔ g.has s.flag = false ∧ Fresh (g.put s) settings := by
  have hput : ∀ t : Setting, (g.put s).has t.flag = false ↔
      (s.flag = t.flag → s.flag = .debug) ∧ g.has t.flag = false := by
    intro t
    rw [← Bool.not_eq_true, g.has_put, ← Bool.not_eq_true]
    grind
  constructor
  · rintro ⟨hnew, hapart⟩
    rcases List.forall_mem_cons.1 hnew with ⟨hs, hrest⟩
    rcases List.pairwise_cons.1 hapart with ⟨hfirst, hmore⟩
    exact ⟨hs, fun t ht => (hput t).2 ⟨hfirst t ht, hrest t ht⟩, hmore⟩
  · rintro ⟨hs, hrest, hmore⟩
    exact ⟨List.forall_mem_cons.2 ⟨hs, fun t ht => ((hput t).1 (hrest t ht)).2⟩,
      List.pairwise_cons.2 ⟨fun t ht => ((hput t).1 (hrest t ht)).1, hmore⟩⟩

theorem Given.addAll_of_fresh {settings : List Setting} (h : Fresh g settings) :
    g.addAll settings = .ok (settings.foldl Given.put g) := by
  induction settings generalizing g with
  | nil => rfl
  | cons s settings ih =>
      rcases fresh_cons.1 h with ⟨hnew, hrest⟩
      rw [Given.addAll_cons, Given.add, hnew]
      exact ih hrest

theorem Given.addAll_of_not_fresh {settings : List Setting} (h : ¬ Fresh g settings) :
    g.addAll settings = .error .argumentConflict := by
  induction settings generalizing g with
  | nil => exact absurd (fresh_nil g) h
  | cons s settings ih =>
      rw [Given.addAll_cons, Given.add]
      cases hhas : g.has s.flag with
      | true => rfl
      | false => exact ih fun hrest => h (fresh_cons.2 ⟨hhas, hrest⟩)

/-! ## Any order -/

theorem Given.put_comm (g : Given) (h : s.flag = t.flag → s.flag = .debug) :
    (g.put s).put t = (g.put t).put s := by
  cases s <;> cases t <;> first | rfl | simp [Setting.flag] at h

theorem Apart.foldl_put_of_perm {settings others : List Setting} (hapart : Apart settings)
    (h : settings.Perm others) (g : Given) :
    settings.foldl Given.put g = others.foldl Given.put g := by
  have hcomm : settings.Pairwise fun s t => ∀ g : Given, (g.put s).put t = (g.put t).put s :=
    hapart.imp fun hst g => g.put_comm hst
  have hall : ∀ s ∈ settings, ∀ t ∈ settings, ∀ g : Given, (g.put s).put t = (g.put t).put s := by
    intro s hs t ht
    exact hcomm.forall_of_forall_of_flip (fun _ _ _ => rfl)
      (hcomm.imp fun hst g => (hst g).symm) hs ht
  exact h.foldl_eq' hall g

theorem Apart.of_perm {settings others : List Setting} (hapart : Apart settings)
    (h : settings.Perm others) : Apart others :=
  h.pairwise hapart fun hst hts => hts ▸ hst hts.symm

/-! ## What the settings come to -/

@[simp] theorem toNat_counted (n : Nat) : (UInt8.ofNat (min n 255)).toNat = min n 255 := by
  rw [UInt8.toNat_ofNat']
  omega

theorem Given.put_debug (g : Given) :
    g.put .debug =
      { g with debug := some (UInt8.ofNat (min ((g.debug.getD 0).toNat + 1) 255)) } := by
  have hcount : ∀ count : UInt8,
      (if count = 255 then 255 else count + 1) = UInt8.ofNat (min (count.toNat + 1) 255) := by
    intro count
    refine UInt8.toNat_inj.1 ?_
    rw [toNat_counted]
    split
    · rename_i hfull
      subst hfull
      rfl
    · rename_i hroom
      have hne : count.toNat ≠ 255 := fun h => hroom (UInt8.toNat_inj.1 h)
      have hlt : count.toNat < 256 := count.toNat_lt
      rw [UInt8.toNat_add, UInt8.toNat_one]
      omega
  rw [Given.put, hcount]

/-- The debug option is counted as far as the counter goes. -/
theorem Given.put_debugs (g : Given) (n : Nat) :
    ((List.replicate (n + 1) Setting.debug).foldl Given.put g) =
      { g with debug := some (UInt8.ofNat (min ((g.debug.getD 0).toNat + (n + 1)) 255)) } := by
  induction n generalizing g with
  | zero => exact g.put_debug
  | succ n ih =>
      have hsum : ∀ count : Nat, min (min (count + 1) 255 + (n + 1)) 255
          = min (count + (n + 1 + 1)) 255 := by
        omega
      rw [List.replicate_succ, List.foldl_cons, ih, g.put_debug]
      simp only [Option.getD_some, toNat_counted, hsum]

theorem Given.put_serve (o : ServeOptions) (g : Given) (h : g.serve = {}) :
    o.settings.foldl Given.put g = { g with serve := o } := by
  rcases g with ⟨debug, config, serve, manage⟩
  rcases o with ⟨address, port, workers, cors⟩
  cases h
  cases address <;> cases port <;> cases workers <;> cases cors <;> rfl

theorem Given.put_manage (o : ConfigOptions) (g : Given) (h : g.manage = {}) :
    o.settings.foldl Given.put g = { g with manage := o } := by
  rcases g with ⟨debug, config, serve, manage⟩
  rcases o with ⟨path, init, global, force⟩
  cases h
  cases path <;> cases init <;> cases global <;> cases force <;> rfl

end CommandLine
end RpcHost
