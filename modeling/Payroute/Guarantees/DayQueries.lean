import Payroute.Runs.Serial
import Payroute.Services.Listings

/-! # Day queries

A listing from one date to another starts at a midnight in UTC and ends with the last
millisecond of a day in the server's local time. Between the end of one day's listing
and the start of the next one lies a gap of at least a millisecond, and a listing of
several days covers the gaps between them.
-/

namespace Payroute

open PaymentsService

/-- Whether the listing from one date to another selects a payment by its creation time,
in microseconds. -/
def Deployment.Selects (deployment : Deployment) (first last createdAt : Int) : Prop :=
  (listFilter deployment
    { startDate := some (.date first), endDate := some (.date last) }).Within createdAt

/-- The milliseconds from a midnight in UTC to the end of the listing of that date. -/
def Deployment.listedPart (deployment : Deployment) : Int :=
  msPerDay - 1 - deployment.utcOffset % msPerDay

/-- The end of a date's listing. -/
theorem endOfDay_date (deployment : Deployment) (day : Int) :
    endOfDay deployment.utcOffset (DateString.date day).time =
      day * msPerDay + deployment.listedPart := by
  have midnight : (DateString.date day).time = day * msPerDay := rfl
  rw [midnight]
  unfold endOfDay Deployment.listedPart msPerDay
  omega

theorem selects_iff (deployment : Deployment) (first last createdAt : Int) :
    deployment.Selects first last createdAt ↔
      first * msPerDay * 1000 ≤ createdAt ∧
        createdAt ≤ (last * msPerDay + deployment.listedPart) * 1000 := by
  have bounds : deployment.Selects first last createdAt ↔
      (DateString.date first).time * 1000 ≤ createdAt ∧
        createdAt ≤ endOfDay deployment.utcOffset (DateString.date last).time * 1000 := by
    simp only [Deployment.Selects, PaymentFilter.Within, listFilter, Option.map_some,
      Option.mem_some_iff, forall_eq']
  rw [bounds, endOfDay_date]
  rfl

/-- The listing of one date selects what was created on that date in UTC, up to its end. -/
theorem selects_day_iff (deployment : Deployment) (day createdAt : Int) :
    deployment.Selects day day createdAt ↔
      day = createdAt / (msPerDay * 1000) ∧
        createdAt % (msPerDay * 1000) ≤ deployment.listedPart * 1000 := by
  rw [selects_iff]
  unfold Deployment.listedPart msPerDay
  constructor
  · rintro ⟨after, before⟩
    constructor
    · omega
    · omega
  · rintro ⟨rfl, inside⟩
    constructor
    · omega
    · omega

/-- Every creation time belongs to the listing of exactly one date, and a listing of
several days is the union of the listings of its days. -/
structure Deployment.PartitionsDays (deployment : Deployment) (createdAt : Int) : Prop where
  single : ∃! day, deployment.Selects day day createdAt
  union : ∀ first last, first ≤ last → (deployment.Selects first last createdAt ↔
    ∃ day, first ≤ day ∧ day ≤ last ∧ deployment.Selects day day createdAt)

/-- The listings partition the times that are not later in their day than the end of the
day's listing. -/
theorem days_partitioned_iff (deployment : Deployment) (createdAt : Int) :
    deployment.PartitionsDays createdAt ↔
      createdAt % (msPerDay * 1000) ≤ deployment.listedPart * 1000 := by
  constructor
  · intro partitions
    obtain ⟨day, selected, _⟩ := partitions.single
    exact ((selects_day_iff deployment day createdAt).mp selected).2
  · intro inside
    constructor
    · refine ⟨createdAt / (msPerDay * 1000), ?_, ?_⟩
      · exact (selects_day_iff deployment _ createdAt).mpr ⟨rfl, inside⟩
      · intro day selected
        exact ((selects_day_iff deployment day createdAt).mp selected).1
    · intro first last ordered
      rw [selects_iff]
      constructor
      · rintro ⟨after, before⟩
        refine ⟨createdAt / (msPerDay * 1000), ?_, ?_, ?_⟩
        · unfold msPerDay at *
          omega
        · unfold Deployment.listedPart msPerDay at *
          omega
        · exact (selects_day_iff deployment _ createdAt).mpr ⟨rfl, inside⟩
      · rintro ⟨day, afterFirst, beforeLast, selected⟩
        obtain ⟨after, before⟩ := (selects_iff deployment day day createdAt).mp selected
        unfold msPerDay at *
        constructor
        · omega
        · omega

/-- Half a millisecond before midnight no date's listing selects a payment, even where
the server's clock shows UTC. -/
theorem last_millisecond_unlisted : ¬ sampleDeployment.PartitionsDays 86_399_999_500 := by
  intro partitions
  obtain ⟨day, selected, _⟩ := partitions.single
  obtain ⟨_, late⟩ := (selects_day_iff sampleDeployment day _).mp selected
  exact absurd late (by decide)

/-- What is created in the gap after a day's listing is listed only together with the
day after it. -/
theorem gap_listed_together (deployment : Deployment) {first last createdAt : Int}
    (late : deployment.listedPart * 1000 < createdAt % (msPerDay * 1000))
    (after : first ≤ createdAt / (msPerDay * 1000))
    (before : createdAt / (msPerDay * 1000) < last) :
    deployment.Selects first last createdAt ∧ ∀ day, ¬ deployment.Selects day day createdAt := by
  constructor
  · rw [selects_iff]
    unfold Deployment.listedPart msPerDay at *
    constructor
    · omega
    · omega
  · intro day selected
    have inside := ((selects_day_iff deployment day createdAt).mp selected).2
    omega

end Payroute
