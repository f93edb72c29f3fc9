import Demonstrator.Java.AutoScaler.Polls
import Demonstrator.Transition.Runs

namespace AutoScaler

open Arithmetic ConfigUtils Coordinator Transition

def InRange (coordinator : Backend) : Prop :=
  ∃ count, coordinator.getReplicaCount .processor = .ok count ∧
    1 ≤ count ∧ count ≤ coordinator.getMaxReplicaCount .processor

def SettledAtRequests (s : System) : Action → Prop
  | .startRequest | .scaleRequest => s.coordinator.Settled .processor
  | _ => True

theorem newReplicas_processor (current relReplicas : Int32) :
    1 ≤ newReplicas .processor current relReplicas := by
  have one : (1 : Int32).toInt = 1 := rfl
  simp only [newReplicas, if_true]
  rw [Int32.le_iff_toInt_le, toInt_max]
  omega

theorem inRange_of_within {b : Backend} {number : Int32} (reliable : b.Reliable .processor)
    (distinct : b.DistinctNames .processor) (settled : b.Settled .processor) (positive : 1 ≤ number)
    (within : number ≤ b.getMaxReplicaCount .processor) :
    InRange (b.setReplicaCount .processor number).1 := by
  have low : 0 ≤ number := Int32.le_trans (by decide) positive
  have effect := settled.takesEffect number reliable distinct low (Int32.le_trans low within)
  have count := Backend.set_within reliable effect low within
  have bound : number ≤ (b.setReplicaCount .processor number).1.getMaxReplicaCount .processor := by
    rw [Backend.set_maximum]
    exact within
  exact ⟨number, count, positive, bound⟩

theorem inRange_set {b : Backend} {number : Int32} (reliable : b.Reliable .processor)
    (distinct : b.DistinctNames .processor) (settled : b.Settled .processor) (positive : 1 ≤ number)
    (maximum : 1 ≤ b.getMaxReplicaCount .processor) (inRange : InRange b) :
    InRange (b.setReplicaCount .processor number).1 := by
  by_cases within : number ≤ b.getMaxReplicaCount .processor
  · exact inRange_of_within reliable distinct settled positive within
  · have beyond := Int32.not_le.mp within
    have low : 0 ≤ number := Int32.le_trans (by decide) positive
    have nonnegative : 0 ≤ b.getMaxReplicaCount .processor := Int32.le_trans (by decide) maximum
    have effect := settled.takesEffect number reliable distinct low nonnegative
    have limit := Backend.set_maximum b .processor .processor number
    rcases Backend.set_beyond reliable effect nonnegative beyond with kept | clamped
    · obtain ⟨count, read, least, most⟩ := inRange
      exact ⟨count, kept.trans read, least, limit.symm ▸ most⟩
    · exact ⟨_, clamped, maximum, limit.symm ▸ Int32.le_refl _⟩

structure Kept (maximum : Int32) (s : System) : Prop where
  reliable : s.coordinator.Reliable .processor
  distinct : s.coordinator.DistinctNames .processor
  limit : s.coordinator.getMaxReplicaCount .processor = maximum
  requests : ∀ number, s.poll = .requesting number → 1 ≤ number
  range : s.start = .finished → InRange s.coordinator

theorem Kept.requested {maximum : Int32} {s : System} (kept : Kept maximum s) (type : ServiceType)
    (number : Int32) (poll : PollThread) (start : StartThread)
    (requests : ∀ number, poll = .requesting number → 1 ≤ number)
    (range : start = .finished → InRange (s.coordinator.setReplicaCount type number).1) :
    Kept maximum { s with coordinator := (s.coordinator.setReplicaCount type number).1, poll, start } where
  reliable := Backend.set_reliable kept.reliable type number
  distinct := Backend.set_distinctNames kept.distinct type number
  limit := by
    rw [Backend.set_maximum]
    exact kept.limit
  requests := requests
  range := range

theorem Kept.polls {maximum : Int32} {s : System} (kept : Kept maximum s) (scaler : AutoScalerImpl)
    (poll : PollThread) (requests : ∀ number, poll = .requesting number → 1 ≤ number) :
    Kept maximum { s with scaler, poll } :=
  ⟨kept.reliable, kept.distinct, kept.limit, requests, kept.range⟩

theorem Kept.drift {maximum : Int32} {s : System} (kept : Kept maximum s) (status : String → String → Int32) :
    Kept maximum { s with coordinator := s.coordinator.drift status } := by
  have limit := Backend.drift_maximum s.coordinator .processor status
  have count := Backend.drift_count s.coordinator .processor status kept.reliable
  exact {
    reliable := Backend.drift_reliable kept.reliable status
    distinct := Backend.drift_distinctNames kept.distinct status
    limit := limit.trans kept.limit
    requests := kept.requests
    range := by
      intro finished
      obtain ⟨current, read, low, high⟩ := kept.range finished
      exact ⟨current, count.trans read, low, limit.symm ▸ high⟩ }

theorem kept_step {maximum : Int32} (positive : 1 ≤ maximum) {s t : System} {action : Action}
    (kept : Kept maximum s) (guarded : SettledAtRequests s action) (h : step s action = some t) :
    Kept maximum t := by
  have top : 1 ≤ s.coordinator.getMaxReplicaCount .processor := by
    rw [kept.limit]
    exact positive
  cases action with
  | startRequest =>
    simp only [step] at h
    split at h
    · cases h
      exact kept.requested .producer 1 s.poll .processor kept.requests (by simp)
    · cases h
      apply kept.requested .processor 1 s.poll .finished kept.requests
      intro _
      exact inRange_of_within kept.reliable kept.distinct guarded (by decide) top
    · cases h
  | checkQueue value =>
    simp only [step] at h
    split at h
    · split at h <;> cases h
      · exact kept.polls _ s.poll kept.requests
      · exact kept.polls _ (.scaling _) (by simp)
    · cases h
  | scaleRead =>
    simp only [step] at h
    split at h
    · rename_i change _
      split at h
      · cases h
        exact kept.polls s.scaler .sleeping (by simp)
      · rename_i current _
        have requests : ∀ number, PollThread.requesting (newReplicas .processor current change) =
            .requesting number → 1 ≤ number := by
          intro number requesting
          cases requesting
          exact newReplicas_processor current change
        cases h
        exact kept.polls s.scaler (.requesting _) requests
    · cases h
  | scaleRequest =>
    simp only [step] at h
    split at h
    · rename_i number requesting
      cases h
      apply kept.requested .processor number .sleeping s.start (by simp)
      intro finished
      exact inRange_set kept.reliable kept.distinct guarded (kept.requests number requesting) top (kept.range finished)
    · cases h
  | updated properties =>
    cases h
    exact kept.polls _ s.poll kept.requests
  | drift status =>
    cases h
    exact kept.drift status

/-- Once the request of `start` for one processor has been handled, the processor count stays
    between one and the maximum, whatever is polled and configured. -/
theorem processor_count_in_range (config : AutoScalerConfig) (coordinator : Backend)
    (reliable : coordinator.Reliable .processor) (distinct : coordinator.DistinctNames .processor)
    (maximum : 1 ≤ coordinator.getMaxReplicaCount .processor)
    (actions : List Action) (final : System)
    (settled : Meets step SettledAtRequests (System.initial config coordinator) actions)
    (run : exec step (System.initial config coordinator) actions = some final)
    (finished : final.start = .finished) :
    ∃ count, final.coordinator.getReplicaCount .processor = .ok count ∧
      1 ≤ count ∧ count ≤ coordinator.getMaxReplicaCount .processor := by
  have start : Kept (coordinator.getMaxReplicaCount .processor) (System.initial config coordinator) :=
    ⟨reliable, distinct, rfl, by simp [System.initial], by simp [System.initial]⟩
  have kept := meets_invariant (fun _ _ _ kept guarded h => kept_step maximum kept guarded h) start settled run
  obtain ⟨count, read, low, high⟩ := kept.range finished
  exact ⟨count, read, low, kept.limit ▸ high⟩

def idleCluster : KubernetesCoordinator where
  config := ⟨⟨8, 4⟩, .pair "java" "celix", .single "producer", "default"⟩
  cluster := ⟨fun _ _ => some ⟨0, 0⟩, fun _ _ => true⟩

def fillingQueue : List Action :=
  [.startRequest, .startRequest, .drift fun _ name => if name = "celix" then 0 else 1, .checkQueue 80,
    .scaleRead, .scaleRequest]

theorem processor_count_in_range_filling :
    ∃ final, exec step (System.initial .default (.kubernetes idleCluster)) fillingQueue = some final ∧
      final.start = .finished ∧ final.coordinator.getReplicaCount .processor = .ok 3 ∧
      ∃ count, final.coordinator.getReplicaCount .processor = .ok count ∧ 1 ≤ count ∧ count ≤ 8 := by
  with_unfolding_all refine ⟨_, rfl, rfl, rfl, processor_count_in_range .default (.kubernetes idleCluster) ?_ ?_
    (by decide) fillingQueue _ ?_ rfl rfl⟩
  · exact fun _ _ => ⟨rfl, rfl⟩
  · exact (by decide : ["java", "celix"].Nodup)
  · have idle : (Backend.kubernetes idleCluster).Settled .processor := fun _ _ => rfl
    with_unfolding_all refine meets_cons idle rfl (meets_cons ?_ rfl (meets_cons True.intro rfl (meets_cons True.intro rfl
      (meets_cons True.intro rfl (meets_cons ?_ rfl True.intro)))))
    all_goals
      intro name member
      have names : name ∈ ["java", "celix"] := member
      simp only [List.mem_cons, List.not_mem_nil, or_false] at names
      rcases names with rfl | rfl <;> rfl

end AutoScaler
