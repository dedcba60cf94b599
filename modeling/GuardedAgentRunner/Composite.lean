/-
This file models how the composite target joins the evidence of the host with the
evidence of the Paper runtime. The two bundles may be taken five seconds apart. The
difference of their instants saturates and its absolute value is a negation in 64
bits, so that a host bundle from more than two centuries before the runtime bundle
passes as well; every other promise of the joined bundle holds without exception.
-/

import GuardedAgentRunner.Service

namespace GuardedAgentRunner

open Fallible

namespace Composite

def maxObservationSkew : Duration := 5 * Duration.second

/-- A reading with its value. -/
structure Reading extends ObservationValue where
  value : Json

structure Bundle where
  bundleID : String
  enrollmentID : String
  deploymentGeneration : Int
  containerID : String
  bootID : String
  inventoryDigest : String
  configDigest : String
  activeArtifacts : String → Option String
  readings : String → Option Reading
  createdAt : Time

/-- `absoluteDuration`: the negation of the smallest duration is the smallest duration. -/
def absoluteDuration (value : Duration) : Duration :=
  if value < 0 then Int.bmod (-value) (2 ^ 64) else value

/-- The comparison of a reading with `true`. -/
def Reading.isTrue (reading : Reading) : Bool :=
  match reading.value with
  | .bool value => value
  | _ => false

/-- The identities the enrollment, the host and the runtime must agree on. -/
def Bundle.IsOf (bundle : Bundle) (enrollment : Enrollment) : Prop :=
  bundle.enrollmentID = enrollment.enrollmentID ∧
    bundle.deploymentGeneration = enrollment.deploymentGeneration ∧
    bundle.containerID = enrollment.containerID
deriving Decidable

/-- An error of one of the two adapters. -/
def inexecutable (text : String) (observed : Except Failure Bundle) : Except Failure Bundle :=
  observed.mapError fun failure => .other (text ++ failure.text)

/-- `Target.Observe` on what the two adapters answer. -/
def observe (codec : Codec) (enrollment : Enrollment)
    (hostObserve runtimeObserve : Except Failure Bundle) : Except Failure Bundle := do
  let host ← inexecutable "host observation is not executable: " hostObserve
  let runtime ← inexecutable "Paper runtime observation is not executable: " runtimeObserve
  refuse (¬ (host.IsOf enrollment ∧ runtime.IsOf enrollment))
    (.other "composite observation identity mismatch")
  refuse (maxObservationSkew < absoluteDuration (host.createdAt.sub runtime.createdAt))
    (.other "host and Paper observations exceed maximum time skew")
  let stale : Failure := .other "Paper runtime is stale or not ready"
  let guard ← demand (runtime.readings "guard_ready") stale
  refuse (guard.availability ≠ .available ∨ guard.isTrue = false) stale
  let players ← demand (runtime.readings "players") stale
  refuse (players.availability ≠ .available) stale
  refuse (runtime.bootID = "" ∨ guard.bootID ≠ runtime.bootID ∨ players.bootID ≠ runtime.bootID)
    (.other "Paper runtime boot identity is inconsistent")
  let digest ← codec.digest (.array [.string host.bundleID, .string runtime.bundleID])
  .ok
    { bundleID := "composite_" ++ digest
      enrollmentID := enrollment.enrollmentID
      deploymentGeneration := enrollment.deploymentGeneration
      containerID := enrollment.containerID
      bootID := runtime.bootID
      inventoryDigest := host.inventoryDigest
      configDigest := host.configDigest
      activeArtifacts := host.activeArtifacts
      readings := fun key => runtime.readings key <|> host.readings key
      createdAt :=
        if runtime.createdAt.Before host.createdAt then runtime.createdAt else host.createdAt }

/-- A saturated difference that passes is small, unless it is too negative to be negated. -/
theorem abs_le_iff_of_passed {difference : Int}
    (passed : absoluteDuration (max Duration.smallest (min Duration.largest difference)) ≤
      maxObservationSkew) :
    |difference| ≤ 5 * Duration.second ↔ Duration.smallest < difference := by
  rw [abs_le]
  show (-5000000000 : Int) ≤ difference ∧ difference ≤ 5000000000 ↔
    (-9223372036854775808 : Int) < difference
  rcases le_total difference Duration.smallest with low | high
  · have low : difference ≤ -9223372036854775808 := low
    omega
  rcases le_total difference Duration.largest with small | large
  · rw [min_eq_right small, max_eq_right high] at passed
    have high : -9223372036854775808 ≤ difference := high
    have passed : (if difference < 0 then Int.bmod (-difference) (2 ^ 64) else difference) ≤
      (5000000000 : Int) := passed
    rw [Int.bmod_def] at passed
    split at passed
    · split at passed <;> omega
    · omega
  · rw [min_eq_left large] at passed
    exact absurd passed (by decide)

/-- The reading is available, and of the boot. -/
def Reading.Current (reading : Reading) (bootID : String) : Prop :=
  reading.availability = .available ∧ reading.bootID = bootID

/-- What a joined bundle promises of the bundles it was made of, apart from their skew. -/
structure Joined (enrollment : Enrollment) (host runtime bundle : Bundle) : Prop where
  identities : host.IsOf enrollment ∧ runtime.IsOf enrollment ∧ bundle.IsOf enrollment
  boot : bundle.bootID = runtime.bootID ∧ bundle.bootID ≠ ""
  guard : ∃ guard, bundle.readings "guard_ready" = some guard ∧ guard.Current bundle.bootID ∧
    guard.value = .bool true
  players : ∃ players, bundle.readings "players" = some players ∧ players.Current bundle.bootID
  earlier : bundle.createdAt = min host.createdAt runtime.createdAt

theorem earlier_eq_min (host runtime : Time) :
    (if runtime.Before host then runtime else host) = min host runtime := by
  rcases lt_or_ge runtime host with before | after
  · exact (if_pos before).trans (min_eq_right before.le).symm
  · exact (if_neg (not_lt.mpr after)).trans (min_eq_left after).symm

theorem value_of_isTrue {reading : Reading} (holds : reading.isTrue = true) :
    reading.value = .bool true := by
  unfold Reading.isTrue at holds
  split at holds
  · rename_i isBool
    rw [isBool, holds]
  · cases holds

theorem inexecutable_eq_ok {text : String} {observed : Except Failure Bundle} {bundle : Bundle} :
    inexecutable text observed = .ok bundle ↔ observed = .ok bundle := by
  cases observed with
  | ok | error => simp [inexecutable, Except.mapError]

/-- An observation that succeeds joins a host and a runtime bundle of the enrollment, and the two
were taken at most five seconds apart exactly when the difference of their instants is above the
smallest duration. -/
theorem observe_skew_iff (codec : Codec) (enrollment : Enrollment)
    (hostObserve runtimeObserve : Except Failure Bundle) (bundle : Bundle)
    (observed : observe codec enrollment hostObserve runtimeObserve = .ok bundle) :
    ∃ host runtime, hostObserve = .ok host ∧ runtimeObserve = .ok runtime ∧
      Joined enrollment host runtime bundle ∧
      (|host.createdAt - runtime.createdAt| ≤ 5 * Duration.second ↔
        Duration.smallest < host.createdAt - runtime.createdAt) := by
  obtain ⟨host, isHost, observed⟩ := bind_eq_ok.mp observed
  obtain ⟨runtime, isRuntime, observed⟩ := bind_eq_ok.mp observed
  obtain ⟨same, observed⟩ := (refuse_bind_eq_ok _ _).mp observed
  obtain ⟨near, observed⟩ := (refuse_bind_eq_ok _ _).mp observed
  obtain ⟨guard, isGuard, observed⟩ := bind_eq_ok.mp observed
  obtain ⟨ready, observed⟩ := (refuse_bind_eq_ok _ _).mp observed
  obtain ⟨players, isPlayers, observed⟩ := bind_eq_ok.mp observed
  obtain ⟨available, observed⟩ := (refuse_bind_eq_ok _ _).mp observed
  obtain ⟨boots, observed⟩ := (refuse_bind_eq_ok _ _).mp observed
  obtain ⟨digest, -, isBundle⟩ := bind_eq_ok.mp observed
  obtain rfl := Except.ok.inj isBundle
  obtain ⟨hostOf, runtimeOf⟩ := not_not.mp same
  obtain ⟨isAvailable, isReady⟩ := not_or.mp ready
  obtain ⟨booted, sameBoots⟩ := not_or.mp boots
  obtain ⟨guardBoot, playersBoot⟩ := not_or.mp sameBoots
  have reading : ∀ {key : String} {found : Reading}, runtime.readings key = some found →
      (runtime.readings key <|> host.readings key) = some found := by
    intro key found isFound
    rw [isFound]
    rfl
  refine ⟨host, runtime, inexecutable_eq_ok.mp isHost, inexecutable_eq_ok.mp isRuntime,
    ⟨⟨hostOf, runtimeOf, rfl, rfl, rfl⟩, ⟨rfl, booted⟩, ⟨guard, ?_, ?_, ?_⟩, ⟨players, ?_, ?_⟩,
      earlier_eq_min _ _⟩, ?_⟩
  · exact reading ((demand_eq_ok ..).mp isGuard)
  · exact ⟨not_not.mp isAvailable, not_not.mp guardBoot⟩
  · exact value_of_isTrue (Bool.eq_true_of_not_eq_false isReady)
  · exact reading ((demand_eq_ok ..).mp isPlayers)
  · exact ⟨not_not.mp available, not_not.mp playersBoot⟩
  · exact abs_le_iff_of_passed (not_lt.mp near)

/-- A bundle of the fixture with an instant. -/
def fixtureBundle (createdAt : Time) : Bundle where
  bundleID := "bundle-a"
  enrollmentID := fixtureEnrollment.enrollmentID
  deploymentGeneration := fixtureEnrollment.deploymentGeneration
  containerID := fixtureEnrollment.containerID
  bootID := "boot-a"
  inventoryDigest := ""
  configDigest := ""
  activeArtifacts := fun _ => none
  readings := fun _ => some ⟨⟨.available, "", createdAt, "boot-a"⟩, .bool true⟩
  createdAt := createdAt

/-- A host bundle with the zero instant is joined with a runtime bundle of today. -/
theorem observe_zero_host :
    ∃ bundle, observe fixtureCodec fixtureEnrollment (.ok (fixtureBundle 0))
        (.ok (fixtureBundle fixtureNow)) = .ok bundle ∧
      ¬ |(fixtureBundle 0).createdAt - (fixtureBundle fixtureNow).createdAt| ≤
        5 * Duration.second :=
  ⟨_, rfl, by decide⟩

theorem observe_skew_of_fixture :
    ∃ bundle host runtime, Joined fixtureEnrollment host runtime bundle ∧
      |host.createdAt - runtime.createdAt| ≤ 5 * Duration.second := by
  obtain ⟨host, runtime, isHost, isRuntime, joined, near⟩ := observe_skew_iff fixtureCodec
    fixtureEnrollment (.ok (fixtureBundle fixtureNow))
    (.ok (fixtureBundle (fixtureNow + Duration.second))) _ rfl
  obtain rfl := Except.ok.inj isHost
  obtain rfl := Except.ok.inj isRuntime
  exact ⟨_, _, _, joined, near.mpr (by decide)⟩

end Composite

end GuardedAgentRunner
