import ReleaseBuilds.Config.CommandLine
import ReleaseBuilds.Proofs.Digits
import ReleaseBuilds.Proofs.Failures

/-!
# Flags and variables

A flag and the environment variable for the same setting are read by different rules. For each
value that is accepted with a flag it is said whether the variable would have come to the same.
-/

namespace ReleaseBuilds

/-! ## Numbers -/

namespace Decimal

variable {bound n : Nat} {s : String} {cs : List Char}

/-- A whole number is written with digits, and maybe a plus sign before them. -/
theorem nat?_eq_some_iff : nat? bound s = some n ↔
    ∃ cs, (s.toList = cs ∨ s.toList = '+' :: cs) ∧ digits? cs = some n ∧ n < bound := by
  unfold nat?
  split
  · next cs hs =>
    simp only [hs, Option.filter_eq_some_iff, decide_eq_true_eq]
    constructor
    · intro h
      exact ⟨cs, .inr rfl, h⟩
    · rintro ⟨ds, rfl | heq, hdigits, hlt⟩
      · rw [digits?_eq_none rfl] at hdigits
        cases hdigits
      · cases heq
        exact ⟨hdigits, hlt⟩
  · next cs hs =>
    simp only [Option.filter_eq_some_iff, decide_eq_true_eq]
    constructor
    · intro h
      exact ⟨_, .inl rfl, h⟩
    · rintro ⟨ds, rfl | heq, h⟩
      · exact h
      · exact absurd heq (hs ds)

theorem nat?_eq_none_of_minus (hs : s.toList = '-' :: cs) : nat? bound s = none := by
  rw [Option.eq_none_iff_forall_ne_some]
  intro n h
  obtain ⟨ds, hds, hdigits, -⟩ := nat?_eq_some_iff.mp h
  rw [hs] at hds
  rcases hds with rfl | heq
  · rw [digits?_eq_none rfl] at hdigits
    cases hdigits
  · cases heq

theorem int?_of_minus (hs : s.toList = '-' :: cs) :
    int? bound s = ((digits? cs).filter (· ≤ bound)).map fun n : Nat => -(n : Int) := by
  simp only [int?, hs]
  cases (digits? cs).filter (· ≤ bound) <;> rfl

/-- Without a minus sign a number is read as a whole number. -/
theorem int?_of_not_minus (hs : ∀ cs, s.toList ≠ '-' :: cs) :
    int? bound s = (nat? bound s).map Int.ofNat := by
  unfold int? nat?
  split
  · next h => simp only [h]
  · next cs h => exact absurd h (hs cs)
  · next hplus _ =>
      split
      · next cs h => exact absurd h (hplus cs)
      · rfl

theorem not_isBlank_of_nat? (h : nat? bound s = some n) : ∀ c ∈ s.toList, Text.isBlank c = false := by
  obtain ⟨cs, hs, hdigits, -⟩ := nat?_eq_some_iff.mp h
  have hcs : ∀ c ∈ cs, Text.isBlank c = false := fun c hc =>
    Text.isBlank_of_isDigit ((digits?_eq_some_iff.mp hdigits).2.1 c hc)
  rcases hs with hs | hs
  · rwa [hs]
  · rw [hs]
    exact List.forall_mem_cons.mpr ⟨by decide, hcs⟩

end Decimal

namespace Config

section Numbers

variable {bound n : Nat} {value : String} {cs : List Char}

theorem trimmedNat?_eq (h : ∀ c ∈ value.toList, Text.isBlank c = false) :
    trimmedNat? bound value = Decimal.nat? bound value := by
  rw [trimmedNat?, Text.trim_eq_self h]

theorem boundedNat?_of_minus (hvalue : value.toList = '-' :: cs)
    (h : boundedNat? bound value = some n) : n = 0 ∧ ∀ c ∈ cs, c.isDigit = true := by
  rw [boundedNat?, Option.bind_eq_some_iff] at h
  obtain ⟨i, hi, hn⟩ := h
  rw [Decimal.int?_of_minus hvalue, Option.map_eq_some_iff] at hi
  obtain ⟨k, hk, hneg⟩ := hi
  have hdigits := (Decimal.digits?_eq_some_iff.mp (Option.filter_eq_some_iff.mp hk).1).2.1
  split at hn
  · next hrange =>
    have heq : i.toNat = n := Option.some.inj hn
    exact ⟨by omega, hdigits⟩
  · cases hn

theorem boundedNat?_of_not_minus (hbound : bound ≤ UInt64.size / 2)
    (hvalue : ∀ cs, value.toList ≠ '-' :: cs) :
    boundedNat? bound value = Decimal.nat? bound value := by
  rw [boundedNat?, Decimal.int?_of_not_minus hvalue]
  ext n
  simp only [Option.bind_eq_some_iff, Option.map_eq_some_iff, Decimal.nat?_eq_some_iff]
  constructor
  · rintro ⟨_, ⟨k, ⟨ds, hds, hdigits, -⟩, rfl⟩, hn⟩
    split at hn
    · next hrange =>
      have heq : (Int.ofNat k).toNat = n := Option.some.inj hn
      exact ⟨ds, hds, by simpa using heq ▸ hdigits, by grind⟩
    · cases hn
  · rintro ⟨ds, hds, hdigits, hlt⟩
    refine ⟨n, ⟨n, ⟨ds, hds, hdigits, by omega⟩, rfl⟩, ?_⟩
    simpa using hlt

theorem not_isBlank_of_boundedNat? (hbound : bound ≤ UInt64.size / 2)
    (h : boundedNat? bound value = some n) : ∀ c ∈ value.toList, Text.isBlank c = false := by
  by_cases hminus : ∃ cs, value.toList = '-' :: cs
  · obtain ⟨cs, hcs⟩ := hminus
    rw [hcs]
    exact List.forall_mem_cons.mpr ⟨by decide, fun c hc =>
      Text.isBlank_of_isDigit ((boundedNat?_of_minus hcs h).2 c hc)⟩
  · rw [boundedNat?_of_not_minus hbound (not_exists.mp hminus)] at h
    exact Decimal.not_isBlank_of_nat? h

/-- A number that is accepted with a flag is read from a variable as well, unless it is a zero with
a minus sign, which is not read there. -/
theorem nat?_of_boundedNat? (hbound : bound ≤ UInt64.size / 2)
    (h : boundedNat? bound value = some n) :
    Decimal.nat? bound value = if value.toList.head? = some '-' then none else some n := by
  split
  · next hhead =>
    obtain ⟨cs, hcs⟩ := List.head?_eq_some_iff.mp hhead
    exact Decimal.nat?_eq_none_of_minus hcs
  · next hhead =>
    rw [← h, boundedNat?_of_not_minus hbound]
    intro cs hcs
    exact hhead (by rw [hcs, List.head?_cons])

theorem eq_zero_of_boundedNat? (h : boundedNat? bound value = some n)
    (hhead : value.toList.head? = some '-') : n = 0 := by
  obtain ⟨cs, hcs⟩ := List.head?_eq_some_iff.mp hhead
  exact (boundedNat?_of_minus hcs h).1

end Numbers

/-! ## Settings -/

/-- What a setting for which there is a flag has been set to. -/
inductive Setting where
  | number (n : Nat)
  | percent (p : Float)
  | hour (n : Option Nat)
  | text (s : String)
  | name (s : Option String)

namespace Flag

/-- The setting for which a flag stands. -/
def setting (c : Config) : Flag → Setting
  | .metricsPort => .number c.metricsPort
  | .watchedNamespace => .name c.watchedNamespace
  | .interval => .number c.intervalSeconds
  | .jitterPercent => .percent c.jitterPercent
  | .windowOpens => .hour c.windowOpens
  | .windowCloses => .hour c.windowCloses
  | .githubUrl => .text c.githubUrl
  | .logFormat => .text c.logFormat

/-- What the setting comes to with a value of the flag, if that can be used. -/
def ofValue? (value : String) : Flag → Option Setting
  | .metricsPort => (boundedNat? UInt16.size value).map .number
  | .watchedNamespace => some (.name (some value))
  | .interval => (Decimal.nat? UInt64.size value).map .number
  | .jitterPercent => (percent? value).map .percent
  | .windowOpens => (boundedNat? UInt32.size value).map fun n => .hour (some n)
  | .windowCloses => (boundedNat? UInt32.size value).map fun n => .hour (some n)
  | .githubUrl => some (.text value)
  | .logFormat => some (.text value)

/-- What the setting comes to with a value of the variable, or without one. -/
def ofVariable (value : Option String) : Flag → Setting
  | .metricsPort =>
    .number ((value.bind (trimmedNat? UInt16.size)).getD ({} : Config).metricsPort)
  | .watchedNamespace => .name (value.bind nonEmpty?)
  | .interval =>
    .number ((value.bind (trimmedNat? UInt64.size)).getD ({} : Config).intervalSeconds)
  | .jitterPercent => .percent ((value.bind percent?).getD ({} : Config).jitterPercent)
  | .windowOpens => .hour (value.bind hour?)
  | .windowCloses => .hour (value.bind hour?)
  | .githubUrl => .text ((value.bind nonEmpty?).getD ({} : Config).githubUrl)
  | .logFormat => .text ((value.bind nonEmpty?).getD ({} : Config).logFormat)

/-- A value that means the same for a flag and for its variable: no empty text, and no zero with a
minus sign for a number of the kinds that are read with one. -/
def SpelledAlike (value : String) : Flag → Prop
  | .metricsPort => value.toList.head? ≠ some '-'
  | .windowOpens => value.toList.head? ≠ some '-'
  | .windowCloses => value.toList.head? ≠ some '-'
  | .watchedNamespace => value ≠ ""
  | .githubUrl => value ≠ ""
  | .logFormat => value ≠ ""
  | .interval => True
  | .jitterPercent => True

variable {f : Flag} {value : String} {env : Environment} {c d : Config} {l : CommandLine}

theorem accepts_eq : f.accepts value = (f.ofValue? value).isSome := by
  cases f <;> simp [accepts, ofValue?]

theorem envName_injective {f g : Flag} (h : f.envName = g.envName) : f = g := by
  cases f <;> cases g <;> first | rfl | exact absurd h (by decide)

theorem setting_ofEnvironment : f.setting (ofEnvironment env) = f.ofVariable (env f.envName) := by
  cases f <;> rfl

theorem setting_overlay :
    f.setting (l.overlay c) = ((l.value? f).bind fun value => f.ofValue? value).getD
      (f.setting c) := by
  cases hvalue : l.value? f with
  | none => cases f <;> simp [setting, CommandLine.overlay, hvalue]
  | some value =>
      cases f with
      | metricsPort | interval | jitterPercent =>
          simp [setting, CommandLine.overlay, ofValue?, hvalue, Option.getD_map]
      | windowOpens | windowCloses =>
          simp only [setting, CommandLine.overlay, ofValue?, hvalue, Option.bind_some]
          cases boundedNat? UInt32.size value <;> rfl
      | watchedNamespace | githubUrl | logFormat =>
          simp [setting, CommandLine.overlay, ofValue?, hvalue]

theorem config_eq_iff : c = d ↔ (∀ f : Flag, f.setting c = f.setting d) ∧
    c.githubToken = d.githubToken ∧ c.githubTimeoutSeconds = d.githubTimeoutSeconds := by
  constructor
  · rintro rfl
    exact ⟨fun _ => rfl, rfl, rfl⟩
  · rintro ⟨hsettings, htoken, htimeout⟩
    have hport := hsettings .metricsPort
    have hnamespace := hsettings .watchedNamespace
    have hinterval := hsettings .interval
    have hpercent := hsettings .jitterPercent
    have hopens := hsettings .windowOpens
    have hcloses := hsettings .windowCloses
    have hurl := hsettings .githubUrl
    have hformat := hsettings .logFormat
    cases c
    cases d
    simp_all [setting]

/-- A value that is accepted with a flag means the same for the variable exactly if it is spelled
alike. -/
theorem ofValue?_eq_iff (haccepts : f.accepts value = true) :
    f.ofValue? value = some (f.ofVariable (some value)) ↔ f.SpelledAlike value := by
  cases f with
  | metricsPort =>
      obtain ⟨n, hn⟩ := Option.isSome_iff_exists.mp haccepts
      have hread : trimmedNat? UInt16.size value =
          if value.toList.head? = some '-' then none else some n := by
        rw [trimmedNat?_eq (not_isBlank_of_boundedNat? (by decide) hn),
          nat?_of_boundedNat? (by decide) hn]
      by_cases hhead : value.toList.head? = some '-'
      · -- the port is zero with the flag, and the usual one with the variable
        simp [ofValue?, ofVariable, SpelledAlike, hn, hread, hhead,
          eq_zero_of_boundedNat? hn hhead]
      · simp [ofValue?, ofVariable, SpelledAlike, hn, hread, hhead]
  | windowOpens | windowCloses =>
      obtain ⟨n, hn⟩ := Option.isSome_iff_exists.mp haccepts
      have hread := nat?_of_boundedNat? (by decide) hn
      by_cases hhead : value.toList.head? = some '-' <;>
        simp [ofValue?, ofVariable, SpelledAlike, hour?, hn, hread, hhead]
  | interval =>
      obtain ⟨n, hn⟩ := Option.isSome_iff_exists.mp haccepts
      have hread : trimmedNat? UInt64.size value = some n := by
        rw [trimmedNat?_eq (Decimal.not_isBlank_of_nat? hn), hn]
      simp [ofValue?, ofVariable, SpelledAlike, hn, hread]
  | jitterPercent =>
      obtain ⟨p, hp⟩ := Option.isSome_iff_exists.mp haccepts
      simp [ofValue?, ofVariable, SpelledAlike, hp]
  | watchedNamespace | githubUrl | logFormat =>
      by_cases hempty : value = "" <;> simp [ofValue?, ofVariable, SpelledAlike, nonEmpty?, hempty]

end Flag

/-! ## Reading a command line -/

namespace CommandLine

/-- What is known of a command line that is read: its values can be used, and no flag is given
twice. -/
structure Sound (l : CommandLine) : Prop where
  accepted : ∀ g ∈ l.given, g.1.accepts g.2 = true
  once : (l.given.map Prod.fst).Nodup

variable {l l' : CommandLine} {f : Flag} {value : String} {env : Environment} {args : List String}

theorem sound_empty : Sound {} := ⟨by simp, .nil⟩

theorem Sound.accept (h : l.Sound) (hok : l.accept f value = .ok l') : l'.Sound := by
  unfold CommandLine.accept at hok
  split at hok
  · cases hok
  · next hnew =>
    split at hok
    · next haccepts =>
      cases hok
      rw [value?, Option.not_isSome_iff_eq_none, List.lookup_eq_none_iff] at hnew
      refine ⟨?_, ?_⟩
      · intro g hg
        rcases List.mem_append.mp hg with hg | hg
        · exact h.accepted g hg
        · obtain rfl := List.mem_singleton.mp hg
          exact haccepts
      · rw [List.map_append, List.nodup_append]
        refine ⟨h.once, by simp, ?_⟩
        intro g hg g' hg' heq
        obtain ⟨given, hgiven, rfl⟩ := List.mem_map.mp hg
        have hf : g' = f := by simpa using hg'
        have hne := hnew given hgiven
        simp [heq, hf] at hne
    · cases hok

namespace Reading

variable {r r' : Reading}

theorem sound_settle (h : r.line.Sound) (hok : r.settle = .ok l) : l.Sound := by
  unfold settle at hok
  split at hok
  · cases hok
    exact h
  · cases hok
  · exact h.accept hok

theorem sound_flag {value : Option String} (h : r.line.Sound) (hok : r.flag f value = .ok r') :
    r'.line.Sound := by
  obtain ⟨line, hline, hok⟩ := bind_eq_ok_iff.mp hok
  have hsound := sound_settle h hline
  cases value with
  | none =>
      cases hok
      exact hsound
  | some value =>
      obtain ⟨next, hnext, hok⟩ := bind_eq_ok_iff.mp hok
      cases hok
      exact hsound.accept hnext

theorem wish_ne_ok {e : CommandLineError} : r.wish e ≠ .ok r' := by
  intro hok
  obtain ⟨_, _, hok⟩ := bind_eq_ok_iff.mp hok
  cases hok

theorem sound_long {cs : List Char} (h : r.line.Sound) (hok : r.long cs = .ok r') :
    r'.line.Sound := by
  simp only [long] at hok
  split at hok
  · exact sound_flag h hok
  · split at hok
    · split at hok
      · cases hok
      · exact absurd hok wish_ne_ok
    · cases hok

theorem sound_short {cs : List Char} (h : r.line.Sound) (hok : r.short cs = .ok r') :
    r'.line.Sound := by
  unfold short at hok
  split at hok
  · exact sound_flag h hok
  · exact sound_flag h hok
  · exact sound_flag h hok
  · exact absurd hok wish_ne_ok
  · exact absurd hok wish_ne_ok
  · cases hok

theorem sound_plain {arg : String} (h : r.line.Sound) (hok : r.plain arg = .ok r') :
    r'.line.Sound := by
  unfold plain at hok
  split at hok
  · cases hok
    exact h
  · cases hok

theorem sound_step {arg : String} (h : r.line.Sound) (hok : r.step arg = .ok r') :
    r'.line.Sound := by
  unfold step at hok
  split at hok
  · exact sound_long h hok
  · exact sound_short h hok
  · exact sound_plain h hok

theorem sound_steps (h : r.line.Sound) (hok : r.steps args = .ok r') : r'.line.Sound := by
  induction args generalizing r with
  | nil =>
      cases hok
      exact h
  | cons arg rest ih =>
      unfold steps at hok
      split at hok
      · split at hok
        · cases hok
          exact h
        · cases hok
      · obtain ⟨between, hstep, hok⟩ := bind_eq_ok_iff.mp hok
        exact ih (sound_step h hstep) hok

end Reading

theorem sound_ofArguments (h : ofArguments args = .ok l) : l.Sound := by
  obtain ⟨r, hsteps, h⟩ := bind_eq_ok_iff.mp h
  obtain ⟨line, hline, h⟩ := bind_eq_ok_iff.mp h
  split at h
  · cases h
    exact Reading.sound_settle (Reading.sound_steps sound_empty hsteps) hline
  · cases h

theorem Sound.accepts (h : l.Sound) (hvalue : l.value? f = some value) : f.accepts value = true := by
  obtain ⟨before, after, hgiven, -⟩ := List.lookup_eq_some_iff.mp hvalue
  exact h.accepted (f, value) (by simp [hgiven])

/-! ## Flags stored as variables -/

/-- An environment with the value of a flag stored under the variable for the same setting. -/
def store (env : Environment) (g : Flag × String) : Environment :=
  fun name => if name = g.1.envName then some g.2 else env name

/-- An environment in which the value of each given flag is stored. -/
def storedIn (l : CommandLine) (env : Environment) : Environment := l.given.foldl store env

theorem foldl_store {given : List (Flag × String)} (honce : (given.map Prod.fst).Nodup) :
    given.foldl store env f.envName = (given.lookup f).or (env f.envName) := by
  induction given generalizing env with
  | nil => rfl
  | cons g rest ih =>
      obtain ⟨key, value⟩ := g
      obtain ⟨hnew, hrest⟩ := List.nodup_cons.mp honce
      rw [List.foldl_cons, ih hrest]
      by_cases hflag : f = key
      · have hnone : rest.lookup f = none := by
          rw [List.lookup_eq_none_iff]
          intro other hother
          rw [bne_iff_ne, hflag]
          intro heq
          exact hnew (List.mem_map.mpr ⟨other, hother, heq.symm⟩)
        rw [hnone, hflag, List.lookup_cons_self]
        simp [store]
      · have hname : f.envName ≠ key.envName := fun h => hflag (Flag.envName_injective h)
        have hlookup : ((key, value) :: rest).lookup f = rest.lookup f := by
          rw [List.lookup_cons, beq_false_of_ne hflag]
        rw [hlookup, store, if_neg hname]

theorem Sound.storedIn_envName (h : l.Sound) :
    l.storedIn env f.envName = (l.value? f).or (env f.envName) := foldl_store h.once

/-- A name that is not that of a flag's variable keeps its value. -/
theorem storedIn_of_ne {name : String} (h : ∀ f : Flag, name ≠ f.envName) :
    l.storedIn env name = env name := by
  unfold storedIn
  induction l.given generalizing env with
  | nil => rfl
  | cons g rest ih => rw [List.foldl_cons, ih, store, if_neg (h g.1)]

/-- A flag that is given makes its setting as the variable would exactly if its value is spelled
alike for both. -/
theorem Sound.setting_overlay_eq_iff (h : l.Sound) :
    f.setting (l.overlay (ofEnvironment env)) = f.setting (ofEnvironment (l.storedIn env)) ↔
      ∀ value, l.value? f = some value → f.SpelledAlike value := by
  rw [Flag.setting_overlay, Flag.setting_ofEnvironment, Flag.setting_ofEnvironment,
    h.storedIn_envName]
  cases hvalue : l.value? f with
  | none => simp
  | some value =>
      have haccepts := h.accepts hvalue
      have halike := Flag.ofValue?_eq_iff haccepts
      rw [Flag.accepts_eq] at haccepts
      obtain ⟨setting, hsetting⟩ := Option.isSome_iff_exists.mp haccepts
      rw [hsetting, Option.some_inj] at halike
      simp [hsetting, halike]

theorem setting_overlay_of_none {c : Config} (h : l.value? f = none) :
    f.setting (l.overlay c) = f.setting c := by
  rw [Flag.setting_overlay, h]
  rfl

/-- Flags that are accepted make the settings that the environment would make with their values
stored in it, exactly as far as no text among them is empty and no port or hour among them is
written with a minus sign. What has no flag stays as the environment has it. -/
theorem overlay_eq_storedIn_iff (args : List String) (l : CommandLine)
    (h : ofArguments args = .ok l) (env : Environment) :
    (l.overlay (ofEnvironment env) = ofEnvironment (l.storedIn env) ↔
      ∀ f value, l.value? f = some value → f.SpelledAlike value) ∧
    (∀ f : Flag,
      f.setting (l.overlay (ofEnvironment env)) = f.setting (ofEnvironment (l.storedIn env)) ↔
        ∀ value, l.value? f = some value → f.SpelledAlike value) ∧
    (∀ f : Flag, l.value? f = none →
      f.setting (l.overlay (ofEnvironment env)) = f.setting (ofEnvironment env)) ∧
    (l.overlay (ofEnvironment env)).githubToken = (ofEnvironment env).githubToken ∧
    (l.overlay (ofEnvironment env)).githubTimeoutSeconds =
      (ofEnvironment env).githubTimeoutSeconds := by
  have hsound := sound_ofArguments h
  have htoken : l.storedIn env "GITHUB_TOKEN" = env "GITHUB_TOKEN" :=
    storedIn_of_ne fun f => by cases f <;> decide
  have htimeout : l.storedIn env "GITHUB_TIMEOUT_SECS" = env "GITHUB_TIMEOUT_SECS" :=
    storedIn_of_ne fun f => by cases f <;> decide
  refine ⟨?_, fun f => hsound.setting_overlay_eq_iff, fun f => setting_overlay_of_none, rfl, rfl⟩
  rw [Flag.config_eq_iff]
  constructor
  · rintro ⟨hsettings, -, -⟩ f
    exact hsound.setting_overlay_eq_iff.mp (hsettings f)
  · intro halike
    refine ⟨fun f => hsound.setting_overlay_eq_iff.mpr (halike f), ?_, ?_⟩
    · simp [overlay, ofEnvironment, htoken]
    · simp [overlay, ofEnvironment, htimeout]

/-- Flags for one namespace and a window of hours. -/
def windowArguments : List String :=
  ["--namespace", "builds", "--requeue-on-hours-from=8", "--requeue-on-hours-to", "18"]

theorem overlay_eq_storedIn_window :
    ∃ l, ofArguments windowArguments = .ok l ∧
      l.overlay (ofEnvironment fun _ => none) = ofEnvironment (l.storedIn fun _ => none) := by
  have hread : ofArguments windowArguments =
      .ok ⟨[(.watchedNamespace, "builds"), (.windowOpens, "8"), (.windowCloses, "18")]⟩ := by
    decide +kernel
  refine ⟨_, hread, (overlay_eq_storedIn_iff _ _ hread _).1.mpr ?_⟩
  intro f value hvalue
  cases f <;> cases hvalue <;> simp [Flag.SpelledAlike]

/-- With an empty namespace after the flag only the namespace without a name is watched, with an
empty variable all are. -/
theorem overlay_ne_storedIn_empty :
    ∃ l, ofArguments ["--namespace="] = .ok l ∧
      l.overlay (ofEnvironment fun _ => none) ≠ ofEnvironment (l.storedIn fun _ => none) := by
  have hread : ofArguments ["--namespace="] = .ok ⟨[(.watchedNamespace, "")]⟩ := by
    decide +kernel
  refine ⟨_, hread, fun h => ?_⟩
  have hnamespace := congrArg Config.watchedNamespace h
  revert hnamespace
  decide +kernel

end CommandLine

end Config

end ReleaseBuilds
