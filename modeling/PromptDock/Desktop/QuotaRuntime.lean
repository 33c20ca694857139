import PromptDock.LabelledRun
import PromptDock.Desktop.AgentEvents

/-!
# The quota cache and its source epoch

`CodexQuotaRuntime` (`codex_quota/runtime.rs`) keeps the configured path of the
Codex CLI under a lock, and a source epoch beside it.  `set_configured_cli`
writes the path, raises the epoch and hands the new epoch to the cache, all
under the lock.  A refresh of the worker resolves the CLI from the configured
path under the lock and reads the epoch after it, without the lock.  The cache
takes what the refresh brings if that epoch is its own.  The last section is about
when the worker makes a refresh.

Between any two of these steps the other side may run.  The fields `resolvedFrom`
and `configuredFor` are not in the program: they record from which configured
path a CLI was resolved, and which path each epoch stands for.
-/

namespace PromptDock.Desktop

open LabelledRun Option

structure RateLimitWindow where
  limitId : Text
  displayName : Option Text
  usedPercent : Nat
  windowDurationMins : Int
  resetsAt : Timestamp

structure QuotaSnapshot where
  sourceEpoch : Nat
  (cliPath cliVersion : Text)
  (accountId accountType : Option Text)
  (primary secondary : Option RateLimitWindow)
  sampledAt : Timestamp
  resolvedFrom : Option Text

structure DiscoveredCli where
  (path version : Text)
  resolvedFrom : Option Text
deriving DecidableEq

/-- What a CLI answers to `read_account` and `read_rate_limits`, and when. -/
structure QuotaAnswer where
  (accountId accountType : Option Text)
  rateLimits : CodexUsageSnapshot
  answeredAt : Timestamp

/-- The snapshot that `perform_refresh` makes of an answer. -/
def QuotaAnswer.snapshot (a : QuotaAnswer) (cli : DiscoveredCli) (epoch : Nat) : QuotaSnapshot where
  sourceEpoch := epoch
  cliPath := cli.path
  cliVersion := cli.version
  accountId := a.accountId
  accountType := a.accountType
  primary := some {
    limitId := text "codex"
    displayName := none
    usedPercent := a.rateLimits.usedPercent.getD 0
    windowDurationMins := a.rateLimits.windowDurationMins.getD 300
    resetsAt := a.rateLimits.resetsAt.getD 0 }
  secondary := none
  sampledAt := a.answeredAt
  resolvedFrom := cli.resolvedFrom

structure QuotaCache where
  snapshot : Option QuotaSnapshot
  currentEpoch : Nat

/-- `DEFAULT_CACHE_TTL`, in milliseconds. -/
def quotaCacheTtl : Int := 120000

def QuotaCache.setEpoch (c : QuotaCache) (epoch : Nat) : QuotaCache :=
  if c.currentEpoch ≠ epoch then ⟨none, epoch⟩ else c

/-- `QuotaCache::store`, with its answer. -/
def QuotaCache.store (c : QuotaCache) (s : QuotaSnapshot) : QuotaCache × Bool :=
  if s.sourceEpoch ≠ c.currentEpoch then (c, false) else ({ c with snapshot := some s }, true)

def QuotaCache.load (c : QuotaCache) (now : Timestamp) : Option QuotaSnapshot :=
  c.snapshot.filter fun s =>
    s.sourceEpoch == c.currentEpoch && max 0 (now - s.sampledAt) ≤ quotaCacheTtl

/-- How far the call of `set_configured_cli` that holds the lock has come. -/
inductive SetterPhase where
  | free
  | written
  | raised (newEpoch : Nat)
deriving DecidableEq

/-- How far the worker's `perform_refresh` has come: `since` is the epoch at the
moment of its discovery. -/
inductive RefreshPhase where
  | idle
  | discovered (cli : DiscoveredCli) (since : Nat)
  | asking (cli : DiscoveredCli) (epoch : Nat)
deriving DecidableEq

/-- The CLI of a refresh, with the epoch of its discovery or the one it read. -/
def RefreshPhase.tagged : RefreshPhase → Option (DiscoveredCli × Nat)
  | .idle => none
  | .discovered cli epoch | .asking cli epoch => some (cli, epoch)

structure QuotaRuntime where
  cache : QuotaCache
  configuredCli : Option Text
  currentEpoch : Nat
  setter : SetterPhase
  worker : RefreshPhase
  configuredFor : Nat → Option Text

/-- `CodexQuotaRuntime::new`. -/
def QuotaRuntime.new : QuotaRuntime :=
  ⟨⟨none, 0⟩, none, 0, .free, .idle, fun _ => none⟩

/-- The steps of `set_configured_cli` and of `perform_refresh`.  What the
discovery finds and what the CLI answers comes from outside; `none` is a failure. -/
inductive QuotaStep where
  | writePath (path : Option Text)
  | raiseEpoch
  | publishEpoch
  | discover (found : Option (Text × Text))
  | readEpoch
  | finish (answer : Option QuotaAnswer)

/-- The number of values of an `AtomicU64`. -/
def epochCount : Nat := 18446744073709551616

def QuotaRuntime.next (w : QuotaRuntime) : QuotaStep → Option QuotaRuntime
  | .writePath path =>
    if w.setter = .free then some { w with configuredCli := path, setter := .written } else none
  | .raiseEpoch =>
    let newEpoch := (w.currentEpoch + 1) % epochCount
    if w.setter = .written then
      some { w with
        currentEpoch := newEpoch, setter := .raised newEpoch,
        configuredFor := fun e => if e = newEpoch then w.configuredCli else w.configuredFor e }
    else none
  | .publishEpoch =>
    match w.setter with
    | .raised newEpoch => some { w with cache := w.cache.setEpoch newEpoch, setter := .free }
    | _ => none
  | .discover found =>
    if w.setter = .free ∧ w.worker = .idle then
      some { w with
        worker := found.elim .idle fun cli =>
          RefreshPhase.discovered ⟨cli.1, cli.2, w.configuredCli⟩ w.currentEpoch }
    else none
  | .readEpoch =>
    match w.worker with
    | .discovered cli _ => some { w with worker := .asking cli w.currentEpoch }
    | _ => none
  | .finish answer =>
    match w.worker with
    | .asking cli epoch =>
      some { w with
        worker := .idle
        cache := answer.elim w.cache fun a => (w.cache.store (a.snapshot cli epoch)).1 }
    | _ => none

/-- A refresh reads the epoch of its discovery, and the counter does not run
over. -/
def QuotaRuntime.Undisturbed (w : QuotaRuntime) : QuotaStep → Prop
  | .readEpoch => ∀ cli since, w.worker = .discovered cli since → w.currentEpoch = since
  | .raiseEpoch => w.currentEpoch + 1 < epochCount
  | _ => True

def QuotaRuntime.calmStep (w : QuotaRuntime) (step : QuotaStep) (w' : QuotaRuntime) : Prop :=
  w.next step = some w' ∧ w.Undisturbed step

/-- Epochs are told apart, and what is kept under an epoch was resolved from the
path of that epoch. -/
structure QuotaRuntime.Sound (w : QuotaRuntime) : Prop where
  configured : w.setter ≠ .written → w.configuredFor w.currentEpoch = w.configuredCli
  raised : ∀ e, w.setter = .raised e → e = w.currentEpoch
  behind : w.cache.currentEpoch ≤ w.currentEpoch
  published : (∀ e, w.setter ≠ .raised e) → w.cache.currentEpoch = w.currentEpoch
  stored : ∀ s, w.cache.snapshot = some s →
    s.sourceEpoch = w.cache.currentEpoch ∧ s.resolvedFrom = w.configuredFor s.sourceEpoch
  refreshed : ∀ cli e, w.worker.tagged = some (cli, e) →
    e ≤ w.currentEpoch ∧ cli.resolvedFrom = w.configuredFor e

namespace QuotaRuntime

variable {w w' : QuotaRuntime}

/-- A new epoch, while there is room for one. -/
theorem Sound.raiseEpoch (hw : w.Sound) (hroom : w.currentEpoch + 1 < epochCount)
    (h : w.next .raiseEpoch = some w') : w'.Sound := by
  obtain ⟨hwritten, rfl⟩ := of_guard h
  rw [Nat.mod_eq_of_lt hroom]
  have hpre : ∀ e, e ≤ w.currentEpoch → e ≠ w.currentEpoch + 1 := fun e he => by omega
  exact {
    configured := fun _ => if_pos rfl
    raised := fun e he => (SetterPhase.raised.inj he).symm
    behind := Nat.le_succ_of_le hw.behind
    published := fun hfree => absurd rfl (hfree _)
    stored := fun s hs => by
      obtain ⟨hepoch, hfrom⟩ := hw.stored s hs
      have hle : s.sourceEpoch ≤ w.currentEpoch := hepoch ▸ hw.behind
      exact ⟨hepoch, hfrom.trans (if_neg (hpre _ hle)).symm⟩
    refreshed := fun cli e he => by
      obtain ⟨hle, hfrom⟩ := hw.refreshed cli e he
      exact ⟨Nat.le_succ_of_le hle, hfrom.trans (if_neg (hpre _ hle)).symm⟩ }

theorem Sound.publishEpoch (hw : w.Sound) (h : w.next .publishEpoch = some w') : w'.Sound := by
  rw [next] at h
  split at h <;> cases h
  rename_i e hraised
  have hsame : (w.cache.setEpoch e).currentEpoch = w.currentEpoch := by
    rw [← hw.raised e hraised, QuotaCache.setEpoch]
    split
    · rfl
    · rename_i heq
      exact not_not.mp heq
  exact {
    configured := fun _ => hw.configured (by rw [hraised]; nofun)
    raised := nofun
    behind := hsame.le
    published := fun _ => hsame
    stored := fun s hs => by
      rw [QuotaCache.setEpoch] at hs ⊢
      split at hs
      · cases hs
      rename_i heq
      rw [if_neg heq]
      exact hw.stored s hs
    refreshed := hw.refreshed }

/-- What a finished read stores belongs to its epoch. -/
theorem Sound.finish (hw : w.Sound) {answer : Option QuotaAnswer}
    (h : w.next (.finish answer) = some w') : w'.Sound := by
  rw [next] at h
  split at h <;> cases h
  rename_i cli epoch hasking
  obtain ⟨-, hfrom⟩ := hw.refreshed cli epoch (by rw [hasking]; rfl)
  cases answer with
  | none => exact { hw with refreshed := nofun }
  | some a =>
    rw [elim_some, QuotaCache.store]
    split
    · exact { hw with refreshed := nofun }
    rename_i hepoch
    exact { hw with
      stored := fun s hs => by
        cases hs
        exact ⟨not_not.mp hepoch, hfrom⟩
      refreshed := nofun }

/-- Every calm step keeps the cache sound. -/
theorem Sound.next {step : QuotaStep} (hw : w.Sound) (h : w.calmStep step w') : w'.Sound := by
  obtain ⟨h, hcalm⟩ := h
  cases step with
  | writePath =>
    obtain ⟨hfree, rfl⟩ := of_guard h
    exact { hw with
      configured := absurd rfl
      raised := nofun
      published := fun _ => hw.published (by rw [hfree]; nofun) }
  | raiseEpoch => exact hw.raiseEpoch hcalm h
  | publishEpoch => exact hw.publishEpoch h
  | discover found =>
    obtain ⟨⟨hfree, -⟩, rfl⟩ := of_guard h
    refine { hw with refreshed := fun cli e he => ?_ }
    cases found <;> cases he
    -- the lock is free, so the path is the one of the current epoch
    exact ⟨le_rfl, (hw.configured (by rw [hfree]; nofun)).symm⟩
  | readEpoch =>
    rw [QuotaRuntime.next] at h
    split at h <;> cases h
    rename_i cli since hfound
    refine { hw with refreshed := fun _ e he => ?_ }
    cases he
    exact hw.refreshed _ _ (by rw [hfound, hcalm cli since hfound]; rfl)
  | finish => exact hw.finish h

end QuotaRuntime

/-- **A snapshot belongs to its epoch.**  If every refresh reads the epoch of its
discovery, the cache answers, at every moment but between the two epoch writes of
a `set_configured_cli`, only with what a CLI said that was resolved from the path
configured for the current epoch. -/
theorem loaded_from_configured_cli {steps : List QuotaStep} {w : QuotaRuntime}
    (hrun : Run QuotaRuntime.calmStep .new steps w)
    (hset : ∀ e, w.setter ≠ .raised e) {now : Timestamp} {s : QuotaSnapshot}
    (hload : w.cache.load now = some s) : s.resolvedFrom = w.configuredFor w.currentEpoch := by
  have hw : w.Sound := hrun.invariant (fun _ _ _ h hw => hw.next h)
    ⟨fun _ => rfl, nofun, le_rfl, fun _ => rfl, nofun, nofun⟩
  obtain ⟨hstored, -⟩ := filter_eq_some_iff.mp hload
  obtain ⟨hepoch, hfrom⟩ := hw.stored s hstored
  rw [hfrom, hepoch, hw.published hset]

/-- A CLI found at `a`, and its answer. -/
def sampleFound : Option (Text × Text) := some (['a'], ['1'])

def sampleAnswer : QuotaAnswer := ⟨none, none, ⟨none, none, none⟩, 0⟩

/-- The snapshot that the cache returns comes from another configured path than
the one of the current epoch. -/
def QuotaRuntime.misleads (w : QuotaRuntime) : Bool :=
  (w.cache.load 0).any fun s => s.resolvedFrom != w.configuredFor w.currentEpoch

/-- A refresh, a change of the configured path, and a refresh after it. -/
def sampleChange : List QuotaStep :=
  [.discover sampleFound, .readEpoch, .finish (some sampleAnswer), .writePath (some ['b']),
    .raiseEpoch, .publishEpoch, .discover sampleFound, .readEpoch, .finish (some sampleAnswer)]

/-- After a reconfiguration the snapshot is the new program's. -/
theorem loaded_from_configured_cli_sample :
    ∃ w s, Run QuotaRuntime.calmStep .new sampleChange w ∧ w.currentEpoch = 1 ∧
      w.cache.load 0 = some s ∧ s.resolvedFrom = some ['b'] := by
  have hrun : Run QuotaRuntime.calmStep .new sampleChange _ :=
    .cons ⟨rfl, trivial⟩ (.cons ⟨rfl, fun _ _ h => by cases h; rfl⟩ (.cons ⟨rfl, trivial⟩
      (.cons ⟨rfl, trivial⟩ (.cons ⟨rfl, (by decide : 1 < epochCount)⟩ (.cons ⟨rfl, trivial⟩
        (.cons ⟨rfl, trivial⟩ (.cons ⟨rfl, fun _ _ h => by cases h; rfl⟩
          (.cons ⟨rfl, trivial⟩ (.nil _)))))))))
  exact ⟨_, _, hrun, rfl, rfl, @loaded_from_configured_cli _ _ hrun nofun 0 _ rfl⟩

/-- Two runs that mislead.  In the first a call of `set_configured_cli` falls
between a discovery and the reading of the epoch; in the second the cache is asked
between the two epoch writes of such a call. -/
theorem loaded_from_earlier_cli :
    (∃ w, Run (fun w step w' => QuotaRuntime.next w step = some w') QuotaRuntime.new
      [.discover sampleFound, .writePath (some ['b']), .raiseEpoch, .publishEpoch, .readEpoch,
        .finish (some sampleAnswer)] w ∧ w.misleads = true) ∧
    ∃ w, Run (fun w step w' => QuotaRuntime.next w step = some w') QuotaRuntime.new
      [.discover sampleFound, .readEpoch, .finish (some sampleAnswer), .writePath (some ['b']),
        .raiseEpoch] w ∧ w.misleads = true :=
  ⟨exists_run_of_any (by decide), exists_run_of_any (by decide)⟩

/-! ## When the worker asks again

`worker_loop` is one pass a second, until the shutdown.  Times are clock readings
in nanoseconds.  The list of attempts is not in the program: it records, newest
first, the refreshes that the passes have made. -/

def seconds (n : Int) : Int := n * 1000000000

def minRefreshInterval : Int := seconds 60

def idleRefreshInterval : Int := seconds 300

def backoffInterval (failures : Nat) : Int :=
  if failures = 0 then minRefreshInterval
  else seconds ([30, 60, 120, 300, 300].getD (min (failures - 1) 4) 0)

/-- A pass of the loop: the clock when it starts, whether it finds a refresh
requested, and the clock when its refresh, if it makes one, has succeeded. -/
structure WorkerPass where
  now : Int
  requested : Bool
  succeededAt : Option Int

structure WorkerLoop where
  lastRefresh : Int
  consecutiveFailures : Nat
  attempts : List WorkerPass

def WorkerLoop.start (now : Int) : WorkerLoop := ⟨now - idleRefreshInterval, 0, []⟩

def WorkerLoop.shouldRefresh (w : WorkerLoop) (p : WorkerPass) : Bool :=
  p.requested || backoffInterval w.consecutiveFailures ≤ (p.now - w.lastRefresh).toNat

def WorkerLoop.pass (w : WorkerLoop) (p : WorkerPass) : WorkerLoop :=
  if w.shouldRefresh p then
    match p.succeededAt with
    | some now => ⟨now, 0, p :: w.attempts⟩
    | none => ⟨w.lastRefresh, min (w.consecutiveFailures + 1) (2 ^ 64 - 1), p :: w.attempts⟩
  else w

/-- The loop after the given passes, newest first. -/
def workerLoop (start : Int) (passes : List WorkerPass) : WorkerLoop :=
  passes.foldr (fun p w => w.pass p) (.start start)

/-- How many attempts have failed in a row. -/
def failuresInRow (attempts : List WorkerPass) : Nat :=
  (attempts.takeWhile fun p => p.succeededAt.isNone).length

/-- When the last refresh that succeeded was over; a loop starts as if one had
been over for the idle interval. -/
def lastSuccess (start : Int) (attempts : List WorkerPass) : Int :=
  (attempts.findSome? WorkerPass.succeededAt).getD (start - idleRefreshInterval)

/-- An attempt that nobody requested keeps the back-off from the start of the
attempt before it, if that one failed. -/
def SpacedAttempts : List WorkerPass → Prop
  | next :: failed :: earlier =>
    (next.requested = false → failed.succeededAt = none →
      failed.now + backoffInterval (failuresInRow (failed :: earlier)) ≤ next.now) ∧
      SpacedAttempts (failed :: earlier)
  | _ => True

/-- The pass falls where the back-off is over from the last success, but not from
the failed attempt. -/
def WorkerPass.FallsBetween (p : WorkerPass) (start : Int) (attempts : List WorkerPass) : Prop :=
  p.requested = false ∧ ∃ failed ∈ attempts.head?, failed.succeededAt = none ∧
    lastSuccess start attempts + backoffInterval (failuresInRow attempts) ≤ p.now ∧
    p.now < failed.now + backoffInterval (failuresInRow attempts)

theorem backoffInterval_pos (failures : Nat) : 0 < backoffInterval failures := by
  match failures with
  | 0 | 1 | 2 | 3 | 4 => decide
  | n + 5 => simp [backoffInterval, seconds]

-- the table ends long before the counter saturates
/-- Failures saturate long after the interval did. -/
theorem backoffInterval_min (failures : Nat) :
    backoffInterval (min failures (2 ^ 64 - 1)) = backoffInterval failures := by
  rcases Nat.le_total failures (2 ^ 64 - 1) with h | h
  · rw [Nat.min_eq_left h]
  · rw [Nat.min_eq_right h, backoffInterval, backoffInterval, if_neg (by decide),
      if_neg (by omega), Nat.min_eq_right (by omega : 4 ≤ failures - 1)]
    rfl

variable (start : Int)

/-- The two variables of the loop say what its attempts were. -/
theorem workerLoop_eq (passes : List WorkerPass) : let w := workerLoop start passes
    w.lastRefresh = lastSuccess start w.attempts ∧
      w.consecutiveFailures = min (failuresInRow w.attempts) (2 ^ 64 - 1) := by
  induction passes with
  | nil => exact ⟨rfl, rfl⟩
  | cons p passes ih =>
    obtain ⟨hlast, hfailures⟩ := ih
    simp only [workerLoop, List.foldr_cons, WorkerLoop.pass] at hlast hfailures ⊢
    split
    · cases hp : p.succeededAt with
      | some now => simp [lastSuccess, failuresInRow, hp]
      | none =>
        rw [hlast, hfailures]
        simp only [lastSuccess, failuresInRow, List.findSome?_cons, hp, List.takeWhile_cons,
          isNone_none, if_true, List.length_cons, true_and]
        omega
    · exact ⟨hlast, hfailures⟩

/-- A pass keeps the attempts spaced unless it falls between. -/
theorem pass_spaced_iff {w : WorkerLoop} (p : WorkerPass)
    (hlast : w.lastRefresh = lastSuccess start w.attempts)
    (hfailures : w.consecutiveFailures = min (failuresInRow w.attempts) (2 ^ 64 - 1)) :
    SpacedAttempts (w.pass p).attempts ↔
      ¬p.FallsBetween start w.attempts ∧ SpacedAttempts w.attempts := by
  have hpos := backoffInterval_pos (failuresInRow w.attempts)
  have hdue : w.shouldRefresh p = true ↔ p.requested = true ∨
      lastSuccess start w.attempts + backoffInterval (failuresInRow w.attempts) ≤ p.now := by
    rw [WorkerLoop.shouldRefresh, hlast, hfailures, backoffInterval_min, Bool.or_eq_true,
      decide_eq_true_iff]
    exact or_congr_right (by omega)
  have hattempts : (w.pass p).attempts =
      if w.shouldRefresh p then p :: w.attempts else w.attempts := by
    rw [WorkerLoop.pass]
    split <;> [skip; rfl]
    cases p.succeededAt <;> rfl
  rw [hattempts]
  split
  · rename_i hrefresh
    cases hlog : w.attempts with
    | nil => simp [SpacedAttempts, WorkerPass.FallsBetween]
    | cons failed earlier =>
      simp only [SpacedAttempts, WorkerPass.FallsBetween]
      grind
  · rename_i hrefresh
    rw [hdue, not_or] at hrefresh
    exact (and_iff_right fun hfalls => hrefresh.2 hfalls.2.choose_spec.2.2.1).symm

/-- **Spacing of failed refreshes.**  The loop keeps the back-off between a failed
attempt and the next one that nobody requested exactly if no pass falls between
the end of the back-off from the last success and that from the failed attempt. -/
theorem attempts_spaced_iff (passes : List WorkerPass) :
    SpacedAttempts (workerLoop start passes).attempts ↔
      ∀ p earlier, p :: earlier <:+ passes →
        ¬p.FallsBetween start (workerLoop start earlier).attempts := by
  induction passes with
  | nil => simp [workerLoop, WorkerLoop.start, SpacedAttempts]
  | cons p passes ih =>
    obtain ⟨hlast, hfailures⟩ := workerLoop_eq start passes
    rw [workerLoop, List.foldr_cons, ← workerLoop, pass_spaced_iff start p hlast hfailures, ih]
    simp only [List.suffix_cons_iff]
    grind

/-- A CLI that cannot be reached is asked at the start and again a second later. -/
theorem attempts_one_second_apart :
    ¬SpacedAttempts (workerLoop 0 [⟨seconds 1, false, none⟩, ⟨0, false, none⟩]).attempts :=
  fun h => absurd (h.1 rfl rfl) (by decide)

end PromptDock.Desktop
