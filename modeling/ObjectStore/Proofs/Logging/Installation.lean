import ObjectStore.Logging
import ObjectStore.Proofs.Logging.Readings

/-!
# Calls for a logger

A process calls for a logger any number of times, with whatever settings. The first call whose
level can be read brings the logger, and it stays. Later calls with a readable level are told that
there is one already; a call with a malformed level is told so at any time. A call whose level
breaks the reading down does not come back with an answer. Calls with a level that cannot be read
make no difference to the others.
-/

namespace ObjectStore

/-- The logger that settings ask for, if their level can be read. -/
def LogSettings.logger? (settings : LogSettings) : Option Logging.Logger :=
  match Logging.parseDirectives settings.level with
  | .ok ds => some ⟨ds, .ofName settings.format⟩
  | .error _ => none

namespace Logging

variable {settings : LogSettings} {logger : Option Logger} {calls : List LogSettings}

/-! ## One call -/

/-- A call leaves the logger that is there, and where there is none brings the one it asks for. -/
theorem install_snd (settings : LogSettings) (logger : Option Logger) :
    (install none settings logger).2 = logger.or settings.logger? := by
  rw [install, directives, LogSettings.logger?]
  dsimp only [Option.map_none]
  cases parseDirectives settings.level with
  | error flaw => cases flaw <;> cases logger <;> rfl
  | ok ds => cases logger <;> rfl

theorem install_fst_eq_installed_iff (settings : LogSettings) (logger : Option Logger) :
    (install none settings logger).1 = .installed ↔
      logger = none ∧ settings.logger?.isSome = true := by
  rw [install, directives, LogSettings.logger?]
  dsimp only [Option.map_none]
  cases parseDirectives settings.level with
  | error flaw => cases flaw <;> cases logger <;> simp
  | ok ds => cases logger <;> simp

/--
The answer to a call for a logger, given the answers to earlier calls. It depends on the level and
on whether an earlier call brought a logger, and on nothing else.
-/
structure IsAnswer (settings : LogSettings) (earlier : List Outcome) (outcome : Outcome) :
    Prop where
  /-- The call brings a logger if its level can be read and no earlier one did. -/
  installed_iff : outcome = .installed ↔
    (∃ ds, parseDirectives settings.level = .ok ds) ∧ .installed ∉ earlier
  /-- It comes too late if its level can be read and an earlier one did. -/
  late_iff : (∃ detail, outcome = .refused (.config detail)) ↔
    (∃ ds, parseDirectives settings.level = .ok ds) ∧ .installed ∈ earlier
  /-- It is refused for its level if that is malformed, and the message shows the level. -/
  malformed_iff : outcome =
      .refused (.invalidConfig ("Invalid log level " ++ Text.Quoted.quote settings.level)) ↔
    parseDirectives settings.level = .error .malformed
  /-- It breaks down if the reading of its level does. -/
  crashed_iff : outcome = .crashed ↔ parseDirectives settings.level = .error .broken

theorem isAnswer_install {earlier : List Outcome} (settings : LogSettings)
    (h : logger.isSome = true ↔ .installed ∈ earlier) :
    IsAnswer settings earlier (install none settings logger).1 := by
  rw [install, directives]
  dsimp only [Option.map_none]
  cases hread : parseDirectives settings.level with
  | error flaw => cases flaw <;> constructor <;> simp [hread]
  | ok ds =>
    cases logger with
    | none =>
      have hearlier : .installed ∉ earlier := fun hm => by cases h.mpr hm
      constructor <;> simp [hread, hearlier]
    | some logger =>
      have hearlier : .installed ∈ earlier := h.mp rfl
      constructor <;> simp [hread, hearlier]

/-! ## Calls one after the other -/

theorem installAll_append (calls more : List LogSettings) (logger : Option Logger) :
    installAll none (calls ++ more) logger =
      ((installAll none calls logger).1 ++
          (installAll none more (installAll none calls logger).2).1,
        (installAll none more (installAll none calls logger).2).2) := by
  induction calls generalizing logger with
  | nil => rfl
  | cons settings calls ih => simp [installAll, ih]

theorem length_installAll (calls : List LogSettings) (logger : Option Logger) :
    (installAll none calls logger).1.length = calls.length := by
  induction calls generalizing logger with
  | nil => rfl
  | cons settings calls ih => simp [installAll, ih]

/-- The first answers are those to the first calls. -/
theorem take_installAll (n : Nat) (calls : List LogSettings) (logger : Option Logger) :
    (installAll none calls logger).1.take n = (installAll none (calls.take n) logger).1 := by
  induction calls generalizing n logger with
  | nil => rw [List.take_nil, installAll, List.take_nil]
  | cons settings calls ih =>
    cases n with
    | zero => rfl
    | succ n => exact congrArg _ (ih n _)

/-- A call is answered with the logger that is there after the calls before it. -/
theorem getElem?_installAll (n : Nat) (calls : List LogSettings) (logger : Option Logger) :
    (installAll none calls logger).1[n]? = calls[n]?.map fun settings =>
      (install none settings (installAll none (calls.take n) logger).2).1 := by
  induction calls generalizing n logger with
  | nil => rfl
  | cons settings calls ih =>
    cases n with
    | zero => rfl
    | succ n => exact ih n _

/-- After the calls there is the logger of before, else that of the first one with a readable level. -/
theorem installAll_snd (calls : List LogSettings) (logger : Option Logger) :
    (installAll none calls logger).2 = logger.or (calls.findSome? LogSettings.logger?) := by
  induction calls generalizing logger with
  | nil => rw [installAll, List.findSome?_nil, Option.or_none]
  | cons settings calls ih =>
    rw [installAll]
    dsimp only
    rw [ih, install_snd, List.findSome?_cons, Option.or_assoc]
    cases settings.logger? <;> rfl

/-- Some call has brought a logger if there is one, and there was none before. -/
theorem installed_mem_iff (calls : List LogSettings) (logger : Option Logger) :
    .installed ∈ (installAll none calls logger).1 ↔
      logger = none ∧ (installAll none calls logger).2.isSome = true := by
  induction calls generalizing logger with
  | nil => cases logger <;> simp [installAll]
  | cons settings calls ih =>
    rw [installAll]
    dsimp only
    rw [List.mem_cons, ih, eq_comm, install_fst_eq_installed_iff, installAll_snd, install_snd]
    cases logger <;> cases settings.logger? <;> simp

/-- The logger is brought by the first call with a readable level. -/
theorem findIdx?_installed (calls : List LogSettings) :
    (installAll none calls none).1.findIdx? (· = .installed) =
      calls.findIdx? (·.logger?.isSome) := by
  induction calls with
  | nil => rfl
  | cons settings calls ih =>
    have hfirst := install_fst_eq_installed_iff settings none
    have hlogger := install_snd settings none
    rw [installAll, List.findIdx?_cons, List.findIdx?_cons]
    cases hread : settings.logger? with
    | none =>
      rw [hread] at hfirst hlogger
      rw [hlogger, Option.or_none, ih]
      simp [hfirst]
    | some new =>
      rw [hread] at hfirst
      simp [hfirst]

/-- Where there is a logger no call brings one, and where there is none no two calls do. -/
theorem count_installed_le (calls : List LogSettings) (logger : Option Logger) :
    (installAll none calls logger).1.count .installed ≤ if logger.isSome then 0 else 1 := by
  induction calls generalizing logger with
  | nil => simp [installAll]
  | cons settings calls ih =>
    have hrest := ih (install none settings logger).2
    rw [install_snd] at hrest
    rw [installAll]
    dsimp only
    rw [install_snd, List.count_cons]
    by_cases hbrings : (install none settings logger).1 = .installed
    · obtain ⟨rfl, hsome⟩ := (install_fst_eq_installed_iff settings logger).mp hbrings
      rw [Option.none_or, if_pos hsome] at hrest
      simpa [hbrings] using hrest
    · rw [beq_false_of_ne hbrings]
      cases logger with
      | none => exact hrest.trans (by split <;> decide)
      | some old => exact hrest

/-- Calls with a level that cannot be read make no difference to the others. -/
theorem installAll_filter (calls : List LogSettings) (logger : Option Logger) :
    installAll none (calls.filter (·.logger?.isSome)) logger =
      (((calls.zip (installAll none calls logger).1).filter (·.1.logger?.isSome)).map Prod.snd,
        (installAll none calls logger).2) := by
  induction calls generalizing logger with
  | nil => rfl
  | cons settings calls ih =>
    rw [installAll, List.filter_cons]
    dsimp only
    rw [List.zip_cons_cons, List.filter_cons]
    cases hread : settings.logger? with
    | none =>
      have hlogger : (install none settings logger).2 = logger := by
        rw [install_snd, hread, Option.or_none]
      rw [hlogger]
      simpa [hread] using ih logger
    | some new => simp [installAll, ih]

/--
Calls for a logger, in any number and with whatever settings, where the environment asks for
nothing and there is no logger yet. Each call is answered as its level and the earlier calls
demand. At most one call brings a logger, namely the first one whose level can be read, and this is
the logger that is there ever after. Calls whose level cannot be read make no difference to the
answers to the others, nor to the logger. The reading of a level breaks down only over a directive
that begins with a blank and has a character beyond ASCII.
-/
theorem installation_of_calls (calls : List LogSettings) :
    let answers := (installAll none calls none).1
    let logger := (installAll none calls none).2
    answers.length = calls.length ∧
    (∀ n settings, calls[n]? = some settings →
      ∃ outcome, answers[n]? = some outcome ∧ IsAnswer settings (answers.take n) outcome) ∧
    answers.count .installed ≤ 1 ∧
    answers.findIdx? (· = .installed) = calls.findIdx? (·.logger?.isSome) ∧
    logger = calls.findSome? LogSettings.logger? ∧
    (∀ more, logger.isSome = true → (installAll none (calls ++ more) none).2 = logger) ∧
    installAll none (calls.filter (·.logger?.isSome)) none =
      (((calls.zip answers).filter (·.1.logger?.isSome)).map Prod.snd, logger) ∧
    ∀ settings ∈ calls, parseDirectives settings.level = .error .broken →
      ∃ piece ∈ settings.level.splitToList (· = ','),
        (∃ c ∈ piece.toList.head?, Text.isBlank c = true) ∧ ∃ c ∈ piece.toList, 128 ≤ c.toNat := by
  intro answers logger
  have hlogger : logger = calls.findSome? LogSettings.logger? := installAll_snd calls none
  refine ⟨length_installAll calls none, ?_, count_installed_le calls none,
    findIdx?_installed calls, hlogger, ?_, installAll_filter calls none,
    fun settings _ => of_parseDirectives_eq_broken⟩
  · intro n settings hn
    refine ⟨_, by rw [getElem?_installAll, hn, Option.map_some], ?_⟩
    rw [take_installAll]
    apply isAnswer_install
    rw [installed_mem_iff, eq_self, true_and]
  · intro more hsome
    rw [installAll_append, installAll_snd more]
    exact Option.or_of_isSome hsome

/-- A level that cannot be cut in parts is not refused: the call breaks down over it. -/
theorem exists_crashed_call :
    installAll none [{ level := " é=info" }] none = ([.crashed], none) := by
  simp [installAll, install, directives, parseDirectives_shifted]

/-- The third of five calls is the first one with a readable level. Its logger stays. -/
theorem installation_of_calls_mixed :
    let calls : List LogSettings :=
      [{ level := "x=loud" }, { level := " é=info" },
        { level := "warn,core=debug", format := "compact" }, { level := "x=loud" },
        { level := "info" }]
    let logger : Logger :=
      ⟨[{ level := .warn }, { target := some "core", level := .debug }], .compact⟩
    (installAll none calls none).1.findIdx? (· = .installed) = some 2 ∧
    IsAnswer { level := "info" } ((installAll none calls none).1.take 4) (.refused <| .config
      "Failed to install logger: a global default trace dispatcher has already been set") ∧
    ∀ more, (installAll none (calls ++ more) none).2 = some logger := by
  intro calls logger
  have hloud : parseDirectives "x=loud" = .error .malformed := by
    rw [parseDirectives, String.splitToList_of_valid]
    rfl
  have htwo : parseDirectives "warn,core=debug" =
      .ok [{ level := .warn }, { target := some "core", level := .debug }] := by
    rw [parseDirectives, String.splitToList_of_valid]
    rfl
  have hinfo : parseDirectives "info" = .ok [{ level := .info }] := by
    rw [parseDirectives, String.splitToList_of_valid]
    rfl
  have hthird : calls.findSome? LogSettings.logger? = some logger := by
    simp [calls, logger, LogSettings.logger?, hloud, parseDirectives_shifted, htwo, Layout.ofName]
  obtain ⟨-, hanswer, -, hfirst, hlogger, hstays, -⟩ := installation_of_calls calls
  refine ⟨?_, ?_, fun more => ?_⟩
  · rw [hfirst]
    simp [calls, LogSettings.logger?, hloud, parseDirectives_shifted, htwo, List.findIdx?_cons]
  · obtain ⟨outcome, houtcome, his⟩ := hanswer 4 _ rfl
    simp [calls, installAll, install, directives, hloud, parseDirectives_shifted, htwo,
      hinfo] at houtcome
    rwa [← houtcome] at his
  · rw [hstays more (by rw [hlogger, hthird]; rfl), hlogger, hthird]

end Logging

end ObjectStore
