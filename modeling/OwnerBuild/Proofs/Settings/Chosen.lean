/-
# OwnerBuild.Proofs.Settings.Chosen -- settings from the environment and from arguments

Without an argument for them the flags are those that the environment lists. A list of any words
can be written there, and every way of writing it gives exactly these flags, which a build is then
given in front of its targets (`configuredFlags`).

With arguments for both settings the environment should not matter, and its executable never does.
Its flags do in one way: they are split before the arguments are looked at, so if their text ends
in an open quotation or behind a backslash the arguments come to nothing
(`read_unclosed_quotation`). Nothing else of an environment shows (`explicitSettings`).
-/

import OwnerBuild.Checker
import OwnerBuild.Proofs.Shell.Listed
import OwnerBuild.Proofs.Shell.Modes
import OwnerBuild.Settings

namespace OwnerBuild

/-- What the flags of an environment lack to be split, if anything. -/
def Environment.lack (env : Environment) : Option Shell.WordsError :=
  Shell.lack (env.buildFlags.getD "")

namespace Settings

variable {env : Environment} {explicit : Option (List String)} {chosen text : String}
  {flags : List String}

/-! ## Flags from the environment -/

/-- That no flags are given as an argument: there is none, or it is an empty list. -/
def NoFlags (explicit : Option (List String)) : Prop := explicit = none ∨ explicit = some []

theorem read_of_words (split : Shell.words (env.buildFlags.getD "") = .ok flags)
    (none : NoFlags explicit) (executable : Option String) :
    ∃ settings, read env executable explicit = .ok settings ∧ settings.buildFlags = flags := by
  unfold read
  rw [split]
  refine ⟨_, rfl, ?_⟩
  rcases none with rfl | rfl
  · rfl
  · rfl

/-- A build is given the flags between that of the format and the targets. -/
theorem command_flags (settings : Settings) (format : Format) {targets : List String}
    (some : targets ≠ []) : Build.command settings format targets =
      .ok ([settings.executable, "build"] ++ Build.quietFlags ++ [format.buildFlag] ++
        settings.buildFlags ++ targets) := by
  rw [Build.command, if_neg some]
  simp

/-- How flags come from the environment to a build. -/
structure ConfiguredFlags (flags : List String) : Prop where
  /-- There is a text that lists the flags in single quotes, with gaps between them. -/
  possible : ∃ text : String, Shell.Listed flags text.toList
  /-- From every such text exactly these flags are read if none are given as an argument, and every
  build has them, in order, between the flag of its format and its targets. -/
  read : ∀ text : String, Shell.Listed flags text.toList → ∀ env executable explicit,
    env.buildFlags = some text → NoFlags explicit →
      ∃ settings, Settings.read env executable explicit = .ok settings ∧
        settings.buildFlags = flags ∧
        ∀ format targets, targets ≠ [] → Build.command settings format targets =
          .ok ([settings.executable, "build"] ++ Build.quietFlags ++ [format.buildFlag] ++
            flags ++ targets)

/-- **Any flags can be given through the environment.** -/
theorem configuredFlags (flags : List String) : ConfiguredFlags flags where
  possible := Shell.exists_listed flags
  read := by
    intro text listed env executable explicit isSet none
    have split : Shell.words (env.buildFlags.getD "") = .ok flags := by
      rw [isSet]
      exact Shell.words_of_listed listed
    obtain ⟨settings, isRead, rfl⟩ := read_of_words split none executable
    refine ⟨settings, isRead, rfl, ?_⟩
    intro format targets some
    exact command_flags settings format some

example : read { buildFlags := some "'--a b'\t'it'\"'\"'s' \n''" } none none =
    .ok { buildFlags := ["--a b", "it's", ""] } := by rfl

/-! ## Explicit settings -/

/-- Next to explicit settings the environment is only split. -/
theorem read_explicit (named : chosen ≠ "") (given : flags ≠ []) (env : Environment) :
    read env (some chosen) (some flags) =
      (Shell.words (env.buildFlags.getD "")).map fun _ => ⟨chosen, flags⟩ := by
  unfold read
  congr 1
  funext split
  rw [Settings.mk.injEq]
  constructor
  · split
    · next absent => cases absent
    · next empty => exact absurd (Option.some.inj empty) named
    · next same => exact (Option.some.inj same).symm
  · split
    · next absent => cases absent
    · next empty => exact absurd (Option.some.inj empty) given
    · next same => exact (Option.some.inj same).symm

/-- What comes of explicit settings in every environment. -/
structure ExplicitSettings (chosen : String) (flags : List String) : Prop where
  /-- They are the outcome, unless the flags of the environment cannot be split. -/
  read_eq : ∀ env, Settings.read env (some chosen) (some flags) =
    match env.lack with
    | none => .ok ⟨chosen, flags⟩
    | some e => .error e
  /-- Two environments have the same outcome exactly if their flags lack the same. -/
  alike_iff : ∀ env env', Settings.read env (some chosen) (some flags) =
    Settings.read env' (some chosen) (some flags) ↔ env.lack = env'.lack
  /-- The executable of an environment never matters. -/
  executable : ∀ env other, Settings.read { env with executable := other } (some chosen)
    (some flags) = Settings.read env (some chosen) (some flags)

/-- **Explicit settings are the outcome in every environment whose flags can be split**, and in
any other one the outcome is what its flags lack. -/
theorem explicitSettings (named : chosen ≠ "") (given : flags ≠ []) :
    ExplicitSettings chosen flags := by
  have outcome : ∀ env : Environment, Settings.read env (some chosen) (some flags) =
      match env.lack with
      | none => .ok ⟨chosen, flags⟩
      | some e => .error e := by
    intro env
    rw [read_explicit named given]
    cases lacks : env.lack with
    | none =>
      obtain ⟨ws, split⟩ := Shell.exists_words_iff.mpr lacks
      rw [split]
      rfl
    | some e =>
      rw [Shell.words_eq_error_iff.mpr lacks]
      rfl
  refine ⟨outcome, ?_, ?_⟩
  · intro env env'
    rw [outcome, outcome]
    cases env.lack <;> cases env'.lack <;> simp
  · intro env other
    rw [outcome, outcome]
    rfl

/-- Also in an environment with flags of its own, quoted and with a backslash. -/
theorem explicitSettings_quoted : "/opt/bazel" ≠ "" ∧ ["--keep_going"] ≠ [] ∧
    ExplicitSettings "/opt/bazel" ["--keep_going"] ∧
    read ⟨some "bazelisk", some "--config=ci '--copt=-DNAME=a b' \\'"⟩ (some "/opt/bazel")
      (some ["--keep_going"]) = .ok ⟨"/opt/bazel", ["--keep_going"]⟩ := by
  have explicit : ExplicitSettings "/opt/bazel" ["--keep_going"] :=
    explicitSettings (by decide) (by decide)
  refine ⟨by decide, by decide, explicit, ?_⟩
  rw [explicit.read_eq]
  rfl

/-- An open quotation in the environment takes the place of settings that are both explicit. -/
theorem read_unclosed_quotation :
    read {} (some "/opt/bazel") (some ["--keep_going"]) = .ok ⟨"/opt/bazel", ["--keep_going"]⟩ ∧
      read { buildFlags := some "'" } (some "/opt/bazel") (some ["--keep_going"]) =
        .error .noClosingQuote := by
  exact ⟨rfl, rfl⟩

end Settings

end OwnerBuild
