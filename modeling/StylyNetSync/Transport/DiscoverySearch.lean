import StylyNetSync.Foundation.Ranking
import StylyNetSync.Transport.DiscoveryThread

/-!
# What a search reports

A search reports at most one server, as the last thing it does, and what it reports is what the last
thing it heard says of its sender. The order of the attempts is fixed. A server found on this host
is not handed to the cache; any other is, right before it is reported.
-/

namespace StylyNetSync

/-- The server that a reply describes, if it is one. -/
def acceptedReply (message senderIp : Bytes) : Option DiscoveredServer :=
  match parseDiscoveryResponse message senderIp .unset with
  | (true, server) => some server
  | (false, _) => none

namespace DiscoveryEvent

/-- The server that is found by what happens. -/
def answer : DiscoveryEvent → Option DiscoveredServer
  | .probedLocalhost reply => reply.bind (acceptedReply · kLocalhost)
  | .probedCached ip reply => reply.bind (acceptedReply · ip)
  | .datagram sender data => acceptedReply data sender
  | _ => none

/-- The place of an event in a search. -/
def place : DiscoveryEvent → ℕ
  | .log _ => 0
  | .probedLocalhost _ => 0
  | .cacheRead _ => 1
  | .probedCached _ _ => 2
  | .request _ => 3
  | .datagram _ _ => 3
  | .cacheWrite _ => 4
  | .found _ => 5

/-- An event may come before another. Only requests and datagrams are repeated. -/
def Before (a b : DiscoveryEvent) : Prop := a.place < b.place ∨ a.place = 3 ∧ b.place = 3

end DiscoveryEvent

namespace DiscoveryThread

/-- What was done and met, without the log lines. -/
def acts (d : DiscoveryThread) : List DiscoveryEvent := d.trace.filter fun e ↦ !e.isLog

/-- A search that has come as far as a place, without an answer. -/
structure Searching (place : ℕ) (acts : List DiscoveryEvent) : Prop where
  ordered : acts.Pairwise DiscoveryEvent.Before
  unanswered : ∀ e ∈ acts, e.answer = none ∧ e.place ≤ place

/-- The last event brought an answer. It is handed to the cache unless it was the first one, the
probe of this host. -/
structure Answered (acts : List DiscoveryEvent) (server : DiscoveredServer) (cacheIp : Bool) :
    Prop where
  exists_last : ∃ front e, acts = front ++ [e] ∧ e.answer = some server ∧ e.place ≤ 3 ∧
    Searching 3 front ∧ (∀ e' ∈ front, e'.Before e) ∧ cacheIp = !front.isEmpty

/-- A search that is over and reported a server. -/
def Reported (hadWriter : Bool) (acts : List DiscoveryEvent) : Prop :=
  ∃ heard server cacheIp, Answered heard server cacheIp ∧
    acts = heard ++ cacheWrites hadWriter cacheIp server ++ [.found server]

/-- What was done so far, by where the thread stands. -/
def Fits (d : DiscoveryThread) : Prop :=
  match d.stage with
  | .localhost => d.acts = []
  | .afterLocalhost => Searching 0 d.acts ∧ d.acts ≠ []
  | .readingCache => Searching 0 d.acts ∧ d.acts ≠ []
  | .probingCached _ => Searching 1 d.acts ∧ d.acts ≠ []
  | .afterCached => Searching 2 d.acts ∧ d.acts ≠ []
  | .opening => Searching 2 d.acts ∧ d.acts ≠ []
  | .looping _ => Searching 3 d.acts ∧ d.acts ≠ []
  | .requesting _ => Searching 3 d.acts ∧ d.acts ≠ []
  | .receiving _ _ => Searching 3 d.acts ∧ d.acts ≠ []
  | .reporting server cacheIp => Answered d.acts server cacheIp
  | .telling server => ∃ heard cacheIp, Answered heard server cacheIp ∧
      d.acts = heard ++ cacheWrites d.hadWriter cacheIp server
  | .returned => Searching 3 d.acts ∨ Reported d.hadWriter d.acts
  | .absent => Searching 3 d.acts ∨ Reported d.hadWriter d.acts

/-- What holds of a discovery whatever has happened to it. -/
structure Sound (d : DiscoveryThread) : Prop where
  fits : d.Fits
  writer : d.stage ≠ .absent → d.cacheWriter = d.hadWriter
  stopping : d.stopping = true → d.stage ≠ .absent ∧ d.shouldStop = true

/-! ### Searches -/

theorem Searching.mono {place place' : ℕ} {acts : List DiscoveryEvent} (h : Searching place acts)
    (hplace : place ≤ place') : Searching place' acts :=
  ⟨h.ordered, fun e he ↦ ⟨(h.unanswered e he).1, (h.unanswered e he).2.trans hplace⟩⟩

theorem searching_nil (place : ℕ) : Searching place [] :=
  ⟨List.Pairwise.nil, fun _ he ↦ absurd he List.not_mem_nil⟩

/-- One more attempt in vain. -/
theorem Searching.concat {place place' : ℕ} {acts : List DiscoveryEvent} (h : Searching place acts)
    {e : DiscoveryEvent} (hanswer : e.answer = none) (he : e.place ≤ place')
    (hplace : place ≤ place') (hbefore : ∀ e' ∈ acts, e'.Before e) :
    Searching place' (acts ++ [e]) := by
  refine ⟨?_, fun e' he' ↦ ?_⟩
  · rw [List.pairwise_append]
    refine ⟨h.ordered, List.pairwise_singleton _ _, fun a ha b hb ↦ ?_⟩
    rw [List.mem_singleton] at hb
    exact hb ▸ hbefore a ha
  · rcases List.mem_append.mp he' with hold | hnew
    · exact ⟨(h.unanswered e' hold).1, (h.unanswered e' hold).2.trans hplace⟩
    · rw [List.mem_singleton] at hnew
      exact hnew ▸ ⟨hanswer, he⟩

theorem Searching.before_of_lt {place : ℕ} {acts : List DiscoveryEvent} (h : Searching place acts)
    {e : DiscoveryEvent} (he : place < e.place) : ∀ e' ∈ acts, e'.Before e :=
  fun e' he' ↦ Or.inl ((h.unanswered e' he').2.trans_lt he)

theorem Searching.before_of_broadcast {acts : List DiscoveryEvent} (h : Searching 3 acts)
    {e : DiscoveryEvent} (he : e.place = 3) : ∀ e' ∈ acts, e'.Before e := by
  intro e' he'
  rcases (h.unanswered e' he').2.lt_or_eq with hlt | heq
  · exact Or.inl (he ▸ hlt)
  · exact Or.inr ⟨heq, he⟩

/-- The requests of a round. -/
theorem Searching.requests {acts : List DiscoveryEvent} (h : Searching 3 acts)
    (sockets : List LocalInterface) (parsed : List Bool) :
    Searching 3 (acts ++ requests sockets parsed) := by
  rw [DiscoveryThread.requests]
  induction ((sockets.zip parsed).filter Prod.snd) using List.reverseRecOn with
  | nil => simpa using h
  | append_singleton items item ih =>
    rw [List.map_append, ← List.append_assoc]
    exact ih.concat rfl le_rfl le_rfl (ih.before_of_broadcast rfl)

/-- An attempt with an answer. -/
theorem Searching.answered {place : ℕ} {acts : List DiscoveryEvent} (h : Searching place acts)
    (hplace : place ≤ 3) {e : DiscoveryEvent} {server : DiscoveredServer}
    (hanswer : e.answer = some server) (he : e.place ≤ 3) (hbefore : ∀ e' ∈ acts, e'.Before e)
    {cacheIp : Bool} (hcache : cacheIp = !acts.isEmpty) :
    Answered (acts ++ [e]) server cacheIp :=
  ⟨acts, e, rfl, hanswer, he, h.mono hplace, hbefore, hcache⟩

/-! ### Attempts -/

/-- The events without the log lines. -/
def withoutLogs (events : List DiscoveryEvent) : List DiscoveryEvent :=
  events.filter fun e ↦ !e.isLog

theorem withoutLogs_append (events more : List DiscoveryEvent) :
    withoutLogs (events ++ more) = withoutLogs events ++ withoutLogs more :=
  List.filter_append ..

/-- **A probe** is answered, or the search goes on. -/
theorem afterProbe_spec (ip : Bytes) (encounter : DiscoveryEncounter) (cacheIp : Bool)
    (text : String) (next : DiscoveryStage) :
    let answer := encounter.probe.reply.bind (acceptedReply · ip)
    (answer = none ∧ afterProbe ip encounter cacheIp text next = ([], next)) ∨
    ∃ server, answer = some server ∧
      afterProbe ip encounter cacheIp text next = ([.log text], .reporting server cacheIp) := by
  rw [afterProbe, probeTcp]
  cases encounter.probe.reply with
  | none => exact Or.inl ⟨rfl, rfl⟩
  | some reply =>
    rcases hparse : parseDiscoveryResponse reply ip .unset with ⟨_ | _, server⟩
    · exact Or.inl ⟨by simp [acceptedReply, hparse], by simp [hparse]⟩
    · exact Or.inr ⟨server, by simp [acceptedReply, hparse], by simp [hparse]⟩

/-- **A datagram** is the answer, or the search goes on. -/
theorem afterDatagram_spec (sender data : Bytes) (next : DiscoveryStage) :
    (acceptedReply data sender = none ∧ (afterDatagram sender data next).2 = next ∨
      ∃ server, acceptedReply data sender = some server ∧
        (afterDatagram sender data next).2 = .reporting server true) ∧
    withoutLogs (afterDatagram sender data next).1 = [] := by
  rw [afterDatagram]
  rcases hparse : parseDiscoveryResponse data sender .unset with ⟨_ | _, server⟩
  · exact ⟨Or.inl ⟨by simp [acceptedReply, hparse], rfl⟩, rfl⟩
  · exact ⟨Or.inr ⟨server, by simp [acceptedReply, hparse], rfl⟩, rfl⟩

theorem withoutLogs_openSockets (encounter : DiscoveryEncounter) :
    withoutLogs (openSockets encounter).2 = [] := by
  have hlogs (bound : List LocalInterface) :
      withoutLogs (bound.map fun item ↦
        DiscoveryEvent.log ("discovery socket bound to " ++ logText item.address)) = [] := by
    induction bound with
    | nil => rfl
    | cons item bound ih => simp [withoutLogs, DiscoveryEvent.isLog]
  rw [openSockets]
  split
  · exact hlogs _
  · split
    · exact hlogs _
    · rw [withoutLogs_append, hlogs]
      rfl

theorem withoutLogs_requests (sockets : List LocalInterface) (parsed : List Bool) :
    withoutLogs (requests sockets parsed) = requests sockets parsed := by
  rw [withoutLogs, List.filter_eq_self, requests]
  intro e he
  obtain ⟨item, -, rfl⟩ := List.mem_map.mp he
  rfl

theorem withoutLogs_cacheWrites (cacheWriter cacheIp : Bool) (server : DiscoveredServer) :
    withoutLogs (cacheWrites cacheWriter cacheIp server) =
      cacheWrites cacheWriter cacheIp server := by
  rw [cacheWrites]
  split <;> rfl

/-- Only the trace and the stage count. -/
theorem Fits.congr {d d' : DiscoveryThread} (h : d.Fits) (hstage : d'.stage = d.stage)
    (htrace : d'.trace = d.trace) (hwriter : d'.hadWriter = d.hadWriter) : d'.Fits := by
  rw [Fits, acts] at h ⊢
  rw [hstage, htrace, hwriter]
  exact h

/-- **A transition keeps to the search.** -/
theorem fits_advance {d : DiscoveryThread} (h : d.Sound) (encounter : DiscoveryEncounter) :
    (d.advance encounter).Fits := by
  have hfits := h.fits
  rw [Fits] at hfits
  have hacts (more : List DiscoveryEvent) :
      withoutLogs (d.trace ++ more) = d.acts ++ withoutLogs more := withoutLogs_append _ _
  have hfirst {acts : List DiscoveryEvent} (hne : acts ≠ []) : true = !acts.isEmpty := by
    simpa using hne
  rw [advance]
  cases hstage : d.stage with
  | absent => exact h.fits
  | returned => exact h.fits
  | localhost =>
    rw [hstage] at hfits
    have hprobed : withoutLogs (d.trace ++
        [.log "probing localhost over TCP", .probedLocalhost encounter.probe.reply]) =
          [.probedLocalhost encounter.probe.reply] := by
      rw [hacts, hfits]
      rfl
    rcases afterProbe_spec kLocalhost encounter false "server found on localhost" .afterLocalhost
      with ⟨hanswer, hafter⟩ | ⟨server, hanswer, hafter⟩
    · simp only [hafter, List.append_nil]
      show Searching 0 (withoutLogs _) ∧ withoutLogs _ ≠ []
      rw [hprobed]
      exact ⟨(searching_nil 0).concat hanswer le_rfl le_rfl (by simp), by simp⟩
    · simp only [hafter]
      show Answered (withoutLogs _) server false
      rw [withoutLogs_append, hprobed]
      exact (searching_nil 0).answered (e := .probedLocalhost encounter.probe.reply) (by omega)
        hanswer (by simp [DiscoveryEvent.place]) (by simp) rfl
  | afterLocalhost =>
    rw [hstage] at hfits
    dsimp only
    split
    · exact Or.inl (hfits.1.mono (by omega))
    · exact hfits
  | readingCache =>
    rw [hstage] at hfits
    dsimp only
    split
    · exact ⟨hfits.1.mono (by omega), hfits.2⟩
    · have hread : Searching 1 (withoutLogs (d.trace ++ [.cacheRead encounter.cached])) ∧
          withoutLogs (d.trace ++ [.cacheRead encounter.cached]) ≠ [] := by
        rw [hacts]
        refine ⟨hfits.1.concat rfl le_rfl (by omega) ?_, ?_⟩
        · exact hfits.1.before_of_lt (by simp [DiscoveryEvent.place])
        · simp [withoutLogs, DiscoveryEvent.isLog]
      split
      · exact ⟨hread.1.mono (by omega), hread.2⟩
      · exact hread
  | probingCached ip =>
    rw [hstage] at hfits
    have hprobed : withoutLogs (d.trace ++ [.log ("probing cached server " ++ logText ip),
        .probedCached ip encounter.probe.reply]) =
          d.acts ++ [.probedCached ip encounter.probe.reply] := by
      rw [hacts]
      rfl
    have hbefore : ∀ e ∈ d.acts, e.Before (.probedCached ip encounter.probe.reply) :=
      hfits.1.before_of_lt (by simp [DiscoveryEvent.place])
    rcases afterProbe_spec ip encounter true ("server found at cached address " ++ logText ip)
      .afterCached with ⟨hanswer, hafter⟩ | ⟨server, hanswer, hafter⟩
    · simp only [hafter, List.append_nil]
      show Searching 2 (withoutLogs _) ∧ withoutLogs _ ≠ []
      rw [hprobed]
      exact ⟨hfits.1.concat hanswer le_rfl (by omega) hbefore, by simp⟩
    · simp only [hafter]
      show Answered (withoutLogs _) server true
      rw [withoutLogs_append, hprobed]
      simp only [withoutLogs, DiscoveryEvent.isLog, List.filter_cons, List.filter_nil,
        Bool.not_true, Bool.false_eq_true, if_false, List.append_nil]
      exact hfits.1.answered (e := .probedCached ip encounter.probe.reply) (by omega) hanswer
        (by simp [DiscoveryEvent.place]) hbefore (hfirst hfits.2)
  | afterCached =>
    rw [hstage] at hfits
    dsimp only
    split
    · exact Or.inl (hfits.1.mono (by omega))
    · exact hfits
  | opening =>
    rw [hstage] at hfits
    show Searching 3 (withoutLogs _) ∧ withoutLogs _ ≠ []
    rw [hacts, withoutLogs_openSockets, List.append_nil]
    exact ⟨hfits.1.mono (by omega), hfits.2⟩
  | looping sockets =>
    rw [hstage] at hfits
    dsimp only
    split
    · exact hfits
    · exact Or.inl hfits.1
  | requesting sockets =>
    rw [hstage] at hfits
    show Searching 3 (withoutLogs _) ∧ withoutLogs _ ≠ []
    rw [hacts, withoutLogs_requests]
    exact ⟨hfits.1.requests _ _, by simp [hfits.2]⟩
  | receiving sockets left =>
    rw [hstage] at hfits
    cases left with
    | nil => exact hfits
    | cons socket left =>
      dsimp only
      split
      · exact Or.inl hfits.1
      split
      · exact hfits
      -- a datagram came
      let met : DiscoveryEvent :=
        .datagram encounter.sender (encounter.data.take kReplyBuffer)
      have hbefore : ∀ e ∈ d.acts, e.Before met := hfits.1.before_of_broadcast rfl
      obtain ⟨hcases, hlogs⟩ := afterDatagram_spec encounter.sender
        (encounter.data.take kReplyBuffer) (.receiving sockets left)
      have hmet (more : List DiscoveryEvent) (hmore : withoutLogs more = []) :
          withoutLogs (d.trace ++ [met] ++ more) = d.acts ++ [met] := by
        rw [withoutLogs_append, hmore, List.append_nil, hacts]
        rfl
      rcases hcases with ⟨hanswer, hafter⟩ | ⟨server, hanswer, hafter⟩
      · rw [Fits, acts]
        simp only [hafter]
        show Searching 3 (withoutLogs _) ∧ withoutLogs _ ≠ []
        rw [hmet _ hlogs]
        exact ⟨hfits.1.concat hanswer le_rfl le_rfl hbefore, by simp⟩
      · rw [Fits, acts]
        simp only [hafter]
        show Answered (withoutLogs _) server true
        rw [hmet _ hlogs]
        exact hfits.1.answered le_rfl (e := met) hanswer le_rfl hbefore (hfirst hfits.2)
  | reporting server cacheIp =>
    rw [hstage] at hfits
    have hwriter : d.cacheWriter = d.hadWriter := h.writer (by simp [hstage])
    show ∃ heard cache, Answered heard server cache ∧
      withoutLogs _ = heard ++ cacheWrites d.hadWriter cache server
    refine ⟨d.acts, cacheIp, hfits, ?_⟩
    rw [hacts, withoutLogs_cacheWrites, hwriter]
  | telling server =>
    rw [hstage] at hfits
    obtain ⟨heard, cacheIp, hanswered, hwritten⟩ := hfits
    refine Or.inr ⟨heard, server, cacheIp, hanswered, ?_⟩
    show withoutLogs _ = _
    rw [hacts, hwritten]
    rfl

/-! ### Runs -/

/-- A transition leaves the callbacks and the host's thread alone, and ends no thread that is not
there. -/
theorem advance_keeps (d : DiscoveryThread) (encounter : DiscoveryEncounter) :
    (d.advance encounter).cacheWriter = d.cacheWriter ∧
      (d.advance encounter).hadWriter = d.hadWriter ∧
      (d.advance encounter).stopping = d.stopping ∧
      (d.advance encounter).shouldStop = d.shouldStop ∧
      ((d.advance encounter).stage = .absent ↔ d.stage = .absent) := by
  rw [advance]
  cases hstage : d.stage with
  | absent => simp [hstage]
  | returned => simp [hstage]
  | localhost =>
    rcases afterProbe_spec kLocalhost encounter false "server found on localhost" .afterLocalhost
      with ⟨-, hafter⟩ | ⟨server, -, hafter⟩ <;> simp [hafter]
  | probingCached ip =>
    rcases afterProbe_spec ip encounter true ("server found at cached address " ++ logText ip)
      .afterCached with ⟨-, hafter⟩ | ⟨server, -, hafter⟩ <;> simp [hafter]
  | readingCache =>
    dsimp only
    split
    · simp
    · split <;> simp
  | receiving sockets left =>
    cases left with
    | nil => simp
    | cons socket left =>
      obtain ⟨hcases, -⟩ := afterDatagram_spec encounter.sender
        (encounter.data.take kReplyBuffer) (.receiving sockets left)
      dsimp only
      split
      · simp
      · split
        · simp
        · rcases hcases with ⟨-, hafter⟩ | ⟨server, -, hafter⟩ <;> simp [hafter]
  | opening => simp
  | requesting sockets => simp
  | reporting server cacheIp => simp
  | telling server => simp
  | _ =>
    dsimp only
    split <;> simp

theorem sound_advance {d : DiscoveryThread} (h : d.Sound) (encounter : DiscoveryEncounter) :
    (d.advance encounter).Sound := by
  obtain ⟨hcache, hhad, hstopping, hflag, habsent⟩ := advance_keeps d encounter
  refine ⟨fits_advance h encounter, fun hne ↦ ?_, fun hstop ↦ ?_⟩
  · rw [hcache, hhad]
    exact h.writer (mt habsent.mpr hne)
  · rw [hstopping] at hstop
    obtain ⟨hthere, hstopped⟩ := h.stopping hstop
    rw [hflag]
    exact ⟨mt habsent.mp hthere, hstopped⟩

theorem sound_step {d : DiscoveryThread} (h : d.Sound) (e : DiscoveryStep) : (d.step e).Sound := by
  cases e with
  | thread encounter => exact sound_advance h encounter
  | start =>
    rw [step]
    split
    · exact h
    · next hidle =>
      rw [start]
      split
      · exact ⟨rfl, fun _ ↦ rfl, fun hstop ↦ absurd hstop hidle⟩
      · exact h
  | stopBegin =>
    rw [step]
    split
    · exact h
    · refine ⟨h.fits.congr rfl rfl rfl, h.writer, fun hstop ↦ ⟨fun habsent ↦ ?_, rfl⟩⟩
      have habsent' : d.stage = .absent := habsent
      simp [stopBegin, habsent'] at hstop
  | stopJoin =>
    rw [step]
    split
    · rw [stopJoin]
      split
      · next hreturned =>
        have hfits := h.fits
        rw [Fits, hreturned] at hfits
        exact ⟨hfits, fun hne ↦ absurd rfl hne, fun hstop ↦ by simp at hstop⟩
      · exact h
    · exact h
  | setCache reader writer =>
    rw [step]
    split
    · next habsent =>
      exact ⟨h.fits.congr rfl rfl rfl, fun hne ↦ absurd habsent hne, h.stopping⟩
    · exact h

theorem sound_run (steps : List DiscoveryStep) :
    (steps.foldl step ({} : DiscoveryThread)).Sound := by
  have hnew : ({} : DiscoveryThread).Sound :=
    ⟨Or.inl (searching_nil 3), fun hne ↦ absurd rfl hne, fun hstop ↦ by simp at hstop⟩
  exact List.foldlRecOn steps step hnew fun _ hs e _ ↦ sound_step hs e

/-- What a search has done and met: attempts in vain, or after these one with an answer, and then
as much of the report as there was time for. -/
def SearchSoFar (hadWriter : Bool) (acts : List DiscoveryEvent) : Prop :=
  Searching 3 acts ∨ ∃ heard server cacheIp, Answered heard server cacheIp ∧ heard <+: acts ∧
    acts <+: heard ++ cacheWrites hadWriter cacheIp server ++ [.found server]

theorem Sound.searchSoFar {d : DiscoveryThread} (h : d.Sound) :
    SearchSoFar d.hadWriter d.acts := by
  have hfits := h.fits
  have hover (hover : Searching 3 d.acts ∨ Reported d.hadWriter d.acts) :
      SearchSoFar d.hadWriter d.acts := by
    rcases hover with hsearching | ⟨heard, server, cacheIp, hanswered, hacts⟩
    · exact Or.inl hsearching
    · refine Or.inr ⟨heard, server, cacheIp, hanswered, ?_, hacts ▸ List.prefix_rfl⟩
      rw [hacts, List.append_assoc]
      exact List.prefix_append _ _
  rw [Fits] at hfits
  cases hstage : d.stage <;> rw [hstage] at hfits
  case localhost =>
    rw [show d.acts = [] from hfits]
    exact Or.inl (searching_nil 3)
  case reporting server cacheIp =>
    refine Or.inr ⟨d.acts, server, cacheIp, hfits, List.prefix_rfl, ?_⟩
    rw [List.append_assoc]
    exact List.prefix_append _ _
  case telling server =>
    obtain ⟨heard, cacheIp, hanswered, hacts⟩ := hfits
    refine Or.inr ⟨heard, server, cacheIp, hanswered, ?_, ?_⟩
    · rw [hacts]
      exact List.prefix_append _ _
    · rw [hacts]
      exact List.prefix_append _ _
  case absent => exact hover hfits
  case returned => exact hover hfits
  all_goals exact Or.inl (hfits.1.mono (by omega))

/-! ### Stopping -/

/-- How many transitions the thread makes at most once it was told to stop. -/
def transitionsLeft (d : DiscoveryThread) : ℕ :=
  match d.stage with
  | .absent => 0
  | .returned => 0
  | .afterLocalhost => 1
  | .afterCached => 1
  | .looping _ => 1
  | .telling _ => 1
  | .opening => 2
  | .receiving _ _ => 2
  | .reporting _ _ => 2
  | .localhost => 3
  | .probingCached _ => 3
  | .requesting _ => 3
  | .readingCache => 4

theorem transitionsLeft_advance {d : DiscoveryThread} (hstop : d.shouldStop = true)
    (encounter : DiscoveryEncounter) (habsent : d.stage ≠ .absent)
    (hreturned : d.stage ≠ .returned) :
    (d.advance encounter).transitionsLeft < d.transitionsLeft := by
  rw [advance]
  cases hstage : d.stage with
  | absent => exact absurd hstage habsent
  | returned => exact absurd hstage hreturned
  | localhost =>
    rcases afterProbe_spec kLocalhost encounter false "server found on localhost" .afterLocalhost
      with ⟨-, hafter⟩ | ⟨server, -, hafter⟩ <;> simp [hafter, transitionsLeft, hstage]
  | probingCached ip =>
    rcases afterProbe_spec ip encounter true ("server found at cached address " ++ logText ip)
      .afterCached with ⟨-, hafter⟩ | ⟨server, -, hafter⟩ <;>
        simp [hafter, transitionsLeft, hstage]
  | readingCache =>
    dsimp only
    split
    · simp [transitionsLeft, hstage]
    · split
      · simp [transitionsLeft, hstage]
      · simp [transitionsLeft, hstage]
  | receiving sockets left => cases left <;> simp [transitionsLeft, hstage, hstop]
  | _ => simp [transitionsLeft, hstage, hstop]

/-- A step of the discovery thread. -/
def isThreadStep : DiscoveryStep → Bool
  | .thread _ => true
  | _ => false

/-- Nothing the host does before the join changes where the thread stands. -/
theorem step_of_stopping {d : DiscoveryThread} (h : d.Sound) (hstopping : d.stopping = true)
    (hreturned : d.stage ≠ .returned) {e : DiscoveryStep} (he : isThreadStep e = false) :
    d.step e = d := by
  obtain ⟨hthere, -⟩ := h.stopping hstopping
  cases e with
  | thread encounter => simp [isThreadStep] at he
  | start => simp [step, hstopping]
  | stopBegin => simp [step, hstopping]
  | stopJoin =>
    rw [step, if_pos hstopping, stopJoin]
    split
    · next hstage => exact absurd hstage hreturned
    · rfl
  | setCache reader writer =>
    rw [step]
    split
    · next hstage => exact absurd hstage hthere
    · rfl

/-- The way of the thread to its end, as a rank. -/
def stopRanking : Ranking step isThreadStep (fun _ ↦ True)
    (fun d ↦ d.Sound ∧ d.stopping = true) fun d ↦ d.stage = .returned where
  rank := transitionsLeft
  kept d e h hreturned _ := by
    refine ⟨sound_step h.1 e, ?_⟩
    cases he : isThreadStep e with
    | false =>
      rw [step_of_stopping h.1 h.2 hreturned he]
      exact h.2
    | true =>
      cases e with
      | thread encounter => exact (advance_keeps d encounter).2.2.1.trans h.2
      | _ => simp [isThreadStep] at he
  lowered d e h hreturned _ hown := by
    cases e with
    | thread encounter =>
      obtain ⟨hthere, hstop⟩ := h.1.stopping h.2
      exact transitionsLeft_advance hstop encounter hthere hreturned
    | _ => simp [isThreadStep] at hown
  not_raised d e h hreturned _ hown := by
    rw [step_of_stopping h.1 h.2 hreturned hown]
  goal_of_zero d h hzero := by
    rw [transitionsLeft] at hzero
    split at hzero
    · next habsent => exact absurd habsent (h.1.stopping h.2).1
    · next hreturned => exact hreturned
    all_goals omega

/-! ### Discovery -/

/-- Without a thread nothing happens until the next `start`. -/
theorem trace_of_absent {d : DiscoveryThread} (h : d.Sound) (habsent : d.stage = .absent)
    {steps : List DiscoveryStep} (hsteps : .start ∉ steps) :
    (steps.foldl step d).trace = d.trace := by
  have hidle (d' : DiscoveryThread) (h' : d'.Sound) (habsent' : d'.stage = .absent) :
      d'.stopping = false := by
    by_contra hne
    exact (h'.stopping (by simpa using hne)).1 habsent'
  have hrun : (steps.foldl step d).Sound ∧ (steps.foldl step d).stage = .absent ∧
      (steps.foldl step d).trace = d.trace := by
    refine List.foldlRecOn (motive := fun d' ↦ d'.Sound ∧ d'.stage = .absent ∧ d'.trace = d.trace)
      steps step ⟨h, habsent, rfl⟩ fun d' ⟨hs, ha, ht⟩ e he ↦ ⟨sound_step hs e, ?_⟩
    have hi := hidle d' hs ha
    cases e with
    | thread encounter => simp [step, advance, ha, ht]
    | start => exact absurd he hsteps
    | stopBegin => simp [step, stopBegin, hi, ha, ht]
    | stopJoin => simp [step, hi, ha, ht]
    | setCache reader writer => simp [step, ha, ht]
  exact hrun.2.2

/-- **A search reports at most once, what it heard last, and `stop` ends it.** In every state that
`start`, `stop` and the steps of the thread can lead to, whatever the system answers: the search so
far is a series of attempts in their order, this host, the cached server, the broadcasts, none of
which brought an answer; or one of them did, and then nothing followed but the report: the address
goes to the cache, unless it is the one of this host, and the server to the callback. Nothing
happens without a thread until the next `start`, which is refused as long as the thread was not
joined, also after a report; and once the host has called `stop`, the thread comes to its end within
four transitions. -/
theorem search_reports (steps : List DiscoveryStep) :
    let d := steps.foldl step ({} : DiscoveryThread)
    SearchSoFar d.hadWriter d.acts ∧
      (d.stage = .absent → ∀ later : List DiscoveryStep, .start ∉ later →
        (later.foldl step d).trace = d.trace) ∧
      (d.stage ≠ .absent → d.start = (false, d)) ∧
      (d.stopping = true → ∀ later : List DiscoveryStep, 4 ≤ later.countP isThreadStep →
        ∃ k, ((later.take k).foldl step d).stage = .returned) := by
  intro d
  have hsound : d.Sound := sound_run steps
  refine ⟨hsound.searchSoFar, fun habsent later ↦ trace_of_absent hsound habsent,
    fun hthere ↦ ?_, fun hstopping later hcount ↦ ?_⟩
  · rw [start]
    split
    · next _ habsent => exact absurd habsent hthere
    · rfl
  · refine stopRanking.reaches ⟨hsound, hstopping⟩ (fun _ _ ↦ trivial) (le_trans ?_ hcount)
    show d.transitionsLeft ≤ 4
    rw [transitionsLeft]
    split <;> omega

end DiscoveryThread

end StylyNetSync
