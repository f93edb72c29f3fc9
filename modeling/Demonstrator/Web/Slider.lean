import Demonstrator.Java.Servlet.DoGet
import Demonstrator.Java.Servlet.DoPost
import Demonstrator.Web.Polling

namespace SliderPage

open Coordinator Polling Servlet.Post Transition

/-- The elements `slider-val` and `slider` of `dashboard.html`. -/
structure Slider where
  sliderVal : Int
  slider : Int
  deriving DecidableEq, Repr

/-- The input takes a value within its range and at one of its steps. -/
def sanitize (value : Int) : Int := (max 0 (min 100 value) + 2) / 5 * 5

def Slider.Shows (page : Slider) (productionRate : Int32) : Prop :=
  page.sliderVal = productionRate.toInt ∧ page.slider = sanitize productionRate.toInt

/-- `renderSystemStats` for a response with its rate; an empty response is null, and has no keys. -/
def renderSystemStats (page : Slider) : Option Int32 → Slider
  | none => page
  | some productionRate => ⟨productionRate.toInt, sanitize productionRate.toInt⟩

def script : Script Dashboard Slider (Option Int32) where
  callback chain page response :=
    match chain with
    | .systemStats => renderSystemStats page response
    | .utilisation | .utilisationGraph | .clusterInfo => page
  ival _ := interval

variable {Service : Type}

/-- The rate in the response to GET `/systemStats`, which stays empty when the coordinator throws. -/
def systemStats (service : CoordinatorService Service) (server : State Service) : Option Int32 :=
  match service.getReplicaCount server.coordinator .processor, service.getReplicaCount server.coordinator .producer with
  | .ok _, .ok _ => some server.productionRate
  | _, _ => none

/-- The servlet and the dashboards that show it, with the requests and the responses between them. A response is kept
    with the client and the number of its request. -/
structure Deployment (Service : Type) where
  server : State Service
  browsers : Nat → Browser Dashboard Slider (Option Int32)
  posts : List Request
  responses : List (Nat × Nat × Option Int32)

def Deployment.initial (server : State Service) : Deployment Service :=
  ⟨server, fun _ => onloadWindow ⟨20, 20⟩ Dashboard.start, [], []⟩

inductive Action where
  | slide (client : Nat) (val : Int32)
  | post (req : Request)
  | deliver (req : Request)
  | lose (req : Request)
  | serve (client number : Nat)
  | browser (client : Nat) (event : Event Dashboard (Option Int32))

def utilisation (val : Int32) : Request := ⟨some "/utilisation", some [val.toInt.repr]⟩

def Deployment.Genuine (s : Deployment Service) (client : Nat) : Event Dashboard (Option Int32) → Prop
  | .load .systemStats number status response => status = 200 → (client, number, response) ∈ s.responses
  | _ => True

instance (s : Deployment Service) (client : Nat) (event : Event Dashboard (Option Int32)) : Decidable (s.Genuine client event) :=
  match event with
  | .load .systemStats _ status _ => inferInstanceAs (Decidable (status = 200 → _))
  | .load .utilisation _ _ _ | .load .utilisationGraph _ _ _ | .load .clusterInfo _ _ _ | .error _ _ | .timeout _ =>
    isTrue True.intro

def Deployment.write (s : Deployment Service) (client : Nat) (b : Browser Dashboard Slider (Option Int32)) : Deployment Service :=
  { s with browsers := Function.update s.browsers client b }

/-- Requests are handled one after the other, in any order; a request or its response may also be lost. -/
def step (service : CoordinatorService Service) (rateOf : Nat → Int32 → Option Int32) (s : Deployment Service) :
    Action → Option (Deployment Service)
  | .slide client val =>
    if sanitize val.toInt = val.toInt then
      some
        { s.write client { s.browsers client with page := ⟨val.toInt, val.toInt⟩ } with
          posts := s.posts ++ [utilisation val] }
    else none
  | .post req => some { s with posts := s.posts ++ [req] }
  | .deliver req =>
    if req ∈ s.posts then
      some { s with server := (doPost service rateOf s.server req).2, posts := s.posts.erase req }
    else none
  | .lose req => if req ∈ s.posts then some { s with posts := s.posts.erase req } else none
  | .serve client number =>
    if .request .systemStats number ∈ (s.browsers client).pending ∧
        ∀ response ∈ s.responses, response.1 = client → response.2.1 ≠ number then
      some { s with responses := s.responses ++ [(client, number, systemStats service s.server)] }
    else none
  | .browser client event =>
    if s.Genuine client event then (Polling.step script (s.browsers client) event).map (s.write client) else none

section Steps

variable {service : CoordinatorService Service} {rateOf : Nat → Int32 → Option Int32} {s t : Deployment Service}
  {action : Action}

structure Sound (s : Deployment Service) : Prop where
  inStep : ∀ client, InStep Dashboard.start.flatten [] (s.browsers client)
  sent : ∀ client number response, (client, number, response) ∈ s.responses →
    number < (s.browsers client).sent .systemStats
  least : 0 ≤ s.server.productionRate
  most : s.server.productionRate ≤ 100

theorem systemStats_eq_some {server : State Service} {rate : Int32} (written : systemStats service server = some rate) :
    rate = server.productionRate := by
  unfold systemStats at written
  split at written <;> cases written
  rfl

theorem systemStats_document {V : Type} (number : Servlet.DoGet.Number V → Json.Value (Servlet.DoGet.Number V))
    (queryString : Option String) (web : Servlet.DoGet.Surroundings V) (server : State Service)
    (rate : web.productionRate = server.productionRate)
    (counts : ∀ type, (web.getReplicaCount type).toOption = (service.getReplicaCount server.coordinator type).toOption) :
    match systemStats service server with
    | none => web.document number (some "/systemStats") queryString = none
    | some shown => ∃ fields, web.document number (some "/systemStats") queryString =
        some (.object (("productionRate", number (.int shown)) :: fields)) := by
  have processors := counts .processor
  have producers := counts .producer
  simp only [Servlet.DoGet.Surroundings.document, systemStats, rate, processors, producers]
  cases service.getReplicaCount server.coordinator .processor with
  | error failure => simp [Except.toOption]
  | ok current =>
    cases service.getReplicaCount server.coordinator .producer with
    | error failure => simp [Except.toOption]
    | ok count => simp [Except.toOption]

theorem utilisationValue_range {parameters : Servlet.ParameterValues} {value : Int32}
    (valid : Servlet.utilisationValue parameters = some value) : 0 ≤ value ∧ value ≤ 100 := by
  unfold Servlet.utilisationValue at valid
  split at valid
  · split at valid <;> cases valid
    rename_i inside
    rw [not_or, Int32.not_lt, Int32.not_lt] at inside
    exact inside
  · cases valid

theorem doPost_elsewhere (service : CoordinatorService Service) (rateOf : Nat → Int32 → Option Int32)
    (server : State Service) {req : Request} (elsewhere : req.pathInfo ≠ some "/utilisation") :
    (doPost service rateOf server req).2.productionRate = server.productionRate := by
  unfold doPost
  rw [if_neg elsewhere]
  split
  · split
    · rfl
    · split
      · rfl
      · split <;> rfl
  · rfl

theorem doPost_productionRate_range (service : CoordinatorService Service) (rateOf : Nat → Int32 → Option Int32)
    (server : State Service) (req : Request) :
    (doPost service rateOf server req).2.productionRate = server.productionRate ∨
      0 ≤ (doPost service rateOf server req).2.productionRate ∧
        (doPost service rateOf server req).2.productionRate ≤ 100 := by
  by_cases path : req.pathInfo = some "/utilisation"
  · obtain ⟨pathInfo, parameters⟩ := req
    cases path
    rw [doPost_productionRate]
    cases valid : Servlet.utilisationValue parameters with
    | none => exact .inl rfl
    | some value => exact .inr (utilisationValue_range valid)
  · exact .inl (doPost_elsewhere service rateOf server path)

theorem InStep.repaint {b : Browser Dashboard Slider (Option Int32)} (inStep : InStep Dashboard.start.flatten [] b)
    (page : Slider) : InStep Dashboard.start.flatten [] { b with page } :=
  ⟨inStep.balance, inStep.last, inStep.known, inStep.earlier, inStep.ordered⟩

theorem Sound.write (sound : Sound s) {client : Nat} {b : Browser Dashboard Slider (Option Int32)}
    (inStep : InStep Dashboard.start.flatten [] b)
    (sent : (s.browsers client).sent .systemStats ≤ b.sent .systemStats) : Sound (s.write client b) := by
  refine ⟨fun other => ?_, fun other number response member => ?_, sound.least, sound.most⟩
  · by_cases same : other = client
    · subst same
      simpa [Deployment.write] using inStep
    · simpa [Deployment.write, same] using sound.inStep other
  · have before := sound.sent other number response member
    by_cases same : other = client
    · subst same
      simp only [Deployment.write, Function.update_self]
      omega
    · simpa [Deployment.write, same] using before

theorem sound_step (s : Deployment Service) (action : Action) (t : Deployment Service) (sound : Sound s)
    (h : step service rateOf s action = some t) : Sound t := by
  cases action with
  | slide client val =>
    simp only [step] at h
    split at h <;> cases h
    have painted := sound.write (InStep.repaint (sound.inStep client) ⟨val.toInt, val.toInt⟩) (Nat.le_refl _)
    exact ⟨painted.inStep, painted.sent, painted.least, painted.most⟩
  | post req =>
    cases h
    exact ⟨sound.inStep, sound.sent, sound.least, sound.most⟩
  | deliver req =>
    simp only [step] at h
    split at h <;> cases h
    rcases doPost_productionRate_range service rateOf s.server req with same | ⟨least, most⟩
    · exact ⟨sound.inStep, sound.sent, same ▸ sound.least, same ▸ sound.most⟩
    · exact ⟨sound.inStep, sound.sent, least, most⟩
  | lose req =>
    simp only [step] at h
    split at h <;> cases h
    exact ⟨sound.inStep, sound.sent, sound.least, sound.most⟩
  | serve client number =>
    simp only [step] at h
    split at h <;> cases h
    rename_i served
    refine ⟨sound.inStep, fun other asked response member => ?_, sound.least, sound.most⟩
    rcases List.mem_append.mp member with before | new
    · exact sound.sent other asked response before
    · cases List.mem_singleton.mp new
      have last := (sound.inStep client).last .systemStats number served.1
      change number < (s.browsers client).sent .systemStats
      omega
  | browser client event =>
    simp only [step] at h
    split at h
    · obtain ⟨b, taken, rfl⟩ := Option.map_eq_some_iff.mp h
      exact sound.write (inStep_step (by decide) _ event b (sound.inStep client) taken) (sent_step taken .systemStats)
    · cases h

def Quiet : Action → Prop
  | .slide _ _ => False
  | .post req => req.pathInfo ≠ some "/utilisation"
  | .deliver _ | .lose _ | .serve _ _ | .browser _ _ => True

/-- A poll that the client has begun since the deployment was as it `was` has been answered with a rate. -/
def Polled (was s : Deployment Service) (client : Nat) : Prop :=
  ∃ number rate, (.systemStats, number, some rate) ∈ (s.browsers client).answered ∧
    (was.browsers client).sent .systemStats ≤ number

/-- The rate stays as it `was`, and the responses of later polls carry it. -/
structure Settled (was s : Deployment Service) : Prop where
  rate : s.server.productionRate = was.server.productionRate
  posts : ∀ req ∈ s.posts, req.pathInfo ≠ some "/utilisation"
  fresh : ∀ client number rate, (client, number, some rate) ∈ s.responses →
    (was.browsers client).sent .systemStats ≤ number → rate = was.server.productionRate
  shown : ∀ client, Polled was s client → (s.browsers client).page.Shows was.server.productionRate

variable {was : Deployment Service}

theorem settled_browser {client : Nat} {event : Event Dashboard (Option Int32)} {b : Browser Dashboard Slider (Option Int32)}
    (sound : Sound s) (settled : Settled was s) (genuine : s.Genuine client event)
    (taken : Polling.step script (s.browsers client) event = some b) : Settled was (s.write client b) := by
  refine ⟨settled.rate, settled.posts, settled.fresh, fun other polled => ?_⟩
  by_cases same : other = client
  · subst same
    have here : (s.write other b).browsers other = b := Function.update_self ..
    rw [Polled, here] at polled
    rw [here]
    obtain ⟨number, rate, answered, late⟩ := polled
    rcases answered_or_kept taken with ⟨page, kept⟩ | ⟨chain, asked, response, rfl, flying, page, grown⟩
    · rw [page]
      rw [kept] at answered
      exact settled.shown other ⟨number, rate, answered, late⟩
    · rw [page]
      rw [grown] at answered
      cases chain with
      | systemStats =>
        -- an older poll cannot be answered after a newer one
        have newer : (was.browsers other).sent .systemStats ≤ asked := by
          rcases List.mem_append.mp answered with before | new
          · have order : number < asked := (sound.inStep other).earlier _ before asked flying
            omega
          · cases List.mem_singleton.mp new
            exact late
        cases response with
        | none =>
          rcases List.mem_append.mp answered with before | new
          · exact settled.shown other ⟨number, rate, before, late⟩
          · cases List.mem_singleton.mp new
        | some carried =>
          rw [settled.fresh other asked carried (genuine rfl) newer]
          exact ⟨rfl, rfl⟩
      | utilisation | utilisationGraph | clusterInfo =>
        rcases List.mem_append.mp answered with before | new
        · exact settled.shown other ⟨number, rate, before, late⟩
        · cases List.mem_singleton.mp new
  · have there : (s.write client b).browsers other = s.browsers other := Function.update_of_ne same _ _
    rw [Polled, there] at polled
    rw [there]
    exact settled.shown other polled

theorem settled_step (s : Deployment Service) (action : Action) (t : Deployment Service)
    (holds : Sound s ∧ Settled was s) (quiet : Quiet action) (h : step service rateOf s action = some t) :
    Sound t ∧ Settled was t := by
  obtain ⟨sound, settled⟩ := holds
  refine ⟨sound_step s action t sound h, ?_⟩
  cases action with
  | slide client val => exact quiet.elim
  | post req =>
    cases h
    refine ⟨settled.rate, fun other member => ?_, settled.fresh, settled.shown⟩
    rcases List.mem_append.mp member with before | new
    · exact settled.posts other before
    · rw [List.mem_singleton.mp new]
      exact quiet
  | deliver req =>
    simp only [step] at h
    split at h <;> cases h
    rename_i member
    have same := doPost_elsewhere service rateOf s.server (settled.posts req member)
    exact ⟨same.trans settled.rate, fun other still => settled.posts other (List.mem_of_mem_erase still),
      settled.fresh, settled.shown⟩
  | lose req =>
    simp only [step] at h
    split at h <;> cases h
    exact ⟨settled.rate, fun other still => settled.posts other (List.mem_of_mem_erase still), settled.fresh,
      settled.shown⟩
  | serve client number =>
    simp only [step] at h
    split at h <;> cases h
    refine ⟨settled.rate, settled.posts, fun other asked rate member late => ?_, settled.shown⟩
    rcases List.mem_append.mp member with before | new
    · exact settled.fresh other asked rate before late
    · have written := congrArg (fun response => response.2.2) (List.mem_singleton.mp new)
      exact (systemStats_eq_some written.symm).trans settled.rate
  | browser client event =>
    simp only [step] at h
    split at h
    · rename_i genuine
      obtain ⟨b, taken, rfl⟩ := Option.map_eq_some_iff.mp h
      exact settled_browser sound settled genuine taken
    · cases h

theorem sound_initial {server : State Service} (least : 0 ≤ server.productionRate)
    (most : server.productionRate ≤ 100) : Sound (Deployment.initial server) where
  inStep _ := .onloadWindow _ _
  sent _ _ _ member := absurd member List.not_mem_nil
  least := least
  most := most

theorem Sound.settled (sound : Sound s) (posts : ∀ req ∈ s.posts, req.pathInfo ≠ some "/utilisation") :
    Settled s s := by
  refine ⟨rfl, posts, fun client number rate member late => ?_, fun client polled => ?_⟩
  · have sent := sound.sent client number rate member
    omega
  · obtain ⟨number, rate, answered, late⟩ := polled
    have known : number < (s.browsers client).sent .systemStats := (sound.inStep client).known _ answered
    omega

end Steps

/-- The sliders of all dashboards come to agree with the servlet: once no request that may set the rate is under way
    and no slider is moved, each of them shows the rate from the first poll on that it begins after that and that is
    answered with a rate. -/
theorem sliders_settle (service : CoordinatorService Service) (rateOf : Nat → Int32 → Option Int32)
    (server : State Service) (started : server.productionRate = 5) (before later : List Action)
    (s t : Deployment Service) (reached : exec (step service rateOf) (.initial server) before = some s)
    (settled : ∀ req ∈ s.posts, req.pathInfo ≠ some "/utilisation") (quiet : ∀ action ∈ later, Quiet action)
    (continued : exec (step service rateOf) s later = some t) :
    t.server.productionRate = s.server.productionRate ∧
      0 ≤ s.server.productionRate ∧ s.server.productionRate ≤ 100 ∧
      ∀ client, Polled s t client → (t.browsers client).page.Shows s.server.productionRate := by
  have sound : Sound s :=
    exec_invariant sound_step (sound_initial (by rw [started]; decide) (by rw [started]; decide)) reached
  have final : Sound t ∧ Settled s t :=
    meets_invariant settled_step ⟨sound, sound.settled settled⟩ (meets_of_forall _ quiet) continued
  exact ⟨final.2.rate, sound.least, sound.most, final.2.shown⟩

def movedDuringPoll : List Action :=
  [.browser 0 (.timeout [.systemStats]), .serve 0 0, .slide 0 40, .deliver (utilisation 40),
    .browser 0 (.load .systemStats 0 200 (some 5))]

def nextPoll : List Action :=
  [.browser 0 (.timeout [.systemStats]), .serve 0 1, .browser 0 (.load .systemStats 1 200 (some 40))]

theorem slider_settles_after_poll : ∃ s t,
    exec (step steady fun _ newRate => some newRate) (.initial servlet) movedDuringPoll = some s ∧
      exec (step steady fun _ newRate => some newRate) s nextPoll = some t ∧
      (s.browsers 0).page = ⟨5, 5⟩ ∧ (t.browsers 0).page.Shows 40 := by
  have ran : (exec (step steady fun _ newRate => some newRate) (.initial servlet) movedDuringPoll).map
      (fun s => (s.posts, s.server.productionRate, (s.browsers 0).page, (s.browsers 0).sent .systemStats)) =
      some ([], 40, ⟨5, 5⟩, 1) := by decide +kernel
  have polled : ((exec (step steady fun _ newRate => some newRate) (.initial servlet) movedDuringPoll).bind fun s =>
      (exec (step steady fun _ newRate => some newRate) s nextPoll).map fun t => (t.browsers 0).answered) =
      some [(.systemStats, 0, some 5), (.systemStats, 1, some 40)] := by decide +kernel
  obtain ⟨s, reached, same⟩ := Option.map_eq_some_iff.mp ran
  simp only [Prod.mk.injEq] at same
  obtain ⟨posts, rate, page, sent⟩ := same
  rw [reached, Option.bind_some] at polled
  obtain ⟨t, continued, answered⟩ := Option.map_eq_some_iff.mp polled
  have quiet : ∀ action ∈ nextPoll, Quiet action := by simp [nextPoll, Quiet]
  have shown := (sliders_settle steady _ servlet rfl movedDuringPoll nextPoll s t reached (by simp [posts]) quiet
    continued).2.2.2 0 ⟨1, 40, by simp [answered], by rw [sent]⟩
  rw [rate] at shown
  exact ⟨s, t, reached, continued, page, shown⟩

end SliderPage
