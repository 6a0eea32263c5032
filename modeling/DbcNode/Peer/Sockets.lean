import DbcNode.Peer.Handlers

namespace DbcNode

namespace Network

/-- Every channel that was opened, stopped ones too, with the peer it leads
to. -/
def wires (net : Network) : List (SocketId × Endpoint) :=
  (net.channels ++ net.recycleChannels).map (fun ch => (ch.sid, ch.remoteAddr))

/-- Socket ids are given out once: a channel is known by its id, and a
connector has no channel until it is connected. -/
structure Sound (net : Network) : Prop where
  unique : (net.wires.map Prod.fst).Nodup
  below : ∀ wire ∈ net.wires, wire.1.id ≤ net.curIdx
  single : (net.connectors.map (·.sid)).Nodup
  pending : ∀ c ∈ net.connectors, c.sid.id ≤ net.curIdx
  unopened : ∀ c ∈ net.connectors, c.phase = .connecting → ∀ wire ∈ net.wires, wire.1 ≠ c.sid
  opened : ∀ c ∈ net.connectors, ∀ wire ∈ net.wires, wire.1 = c.sid → wire.2 = c.connectAddr

namespace Sound
variable {net : Network}

theorem empty : Sound Network.empty := by
  constructor <;> simp [Network.empty, wires]

/-- The invariant reads the channels as a set of wires. -/
theorem of_perm {other : Network} (sound : Sound net) (same : other.wires.Perm net.wires)
    (curIdx : other.curIdx = net.curIdx) (part : other.connectors.Sublist net.connectors) : Sound other := by
  refine ⟨(same.map _).nodup_iff.mpr sound.unique, ?_, sound.single.sublist (part.map _), ?_, ?_, ?_⟩
  · intro wire member
    rw [curIdx]
    exact sound.below wire (same.subset member)
  · intro c member
    rw [curIdx]
    exact sound.pending c (part.subset member)
  · intro c member phase wire found
    exact sound.unopened c (part.subset member) phase wire (same.subset found)
  · intro c member wire found
    exact sound.opened c (part.subset member) wire (same.subset found)

end Sound

theorem Wired.wires {a b : Network} (wired : Wired a b) : a.wires = b.wires := by
  have links := wired.links
  rw [Network.links, Network.links] at links
  rw [Network.wires, Network.wires, List.map_append, List.map_append, links, wired.recycled]

theorem Sound.wired {a b : Network} (sound : Sound b) (wired : Wired a b) : Sound a :=
  sound.of_perm (.of_eq wired.wires) wired.curIdx (wired.connectors ▸ .refl _)

theorem getChannel_wire {net : Network} {sid : SocketId} {ch : Channel} (found : net.getChannel sid = some ch) :
    ch ∈ net.channels ∧ ch.sid = sid ∧ (sid, ch.remoteAddr) ∈ net.wires := by
  have member := List.mem_of_find?_eq_some found
  have same : ch.sid = sid := by simpa using List.find?_some found
  refine ⟨member, same, List.mem_map.mpr ⟨ch, List.mem_append_left _ member, ?_⟩⟩
  rw [same]

theorem anyChannel_wire {net : Network} {sid : SocketId} {ch : Channel} (found : net.anyChannel sid = some ch) :
    (sid, ch.remoteAddr) ∈ net.wires := by
  have member := List.mem_of_find?_eq_some found
  have same : ch.sid = sid := by simpa using List.find?_some found
  refine List.mem_map.mpr ⟨ch, member, ?_⟩
  rw [same]

/-- A socket id leads to one peer. -/
theorem Sound.same_peer {net : Network} (sound : Sound net) {sid : SocketId} {a b : Endpoint}
    (first : (sid, a) ∈ net.wires) (second : (sid, b) ∈ net.wires) : a = b := by
  have equal := List.inj_on_of_nodup_map sound.unique first second rfl
  exact (Prod.mk.inj equal).2

theorem stopChannel_perm (sid : SocketId) (net : Network) : (net.stopChannel sid).wires.Perm net.wires := by
  rw [stopChannel]
  split
  · exact .refl _
  rename_i ch found
  obtain ⟨same, before, after, whole, none⟩ := List.find?_eq_some_iff_append.mp found
  have erased : net.channels.eraseP (·.sid = sid) = before ++ after := by
    rw [whole, List.eraseP_append_right]
    · simp only [List.eraseP_cons, same, cond_true]
    · intro b member
      simpa using none b member
  refine List.Perm.map _ ?_
  simp only [erased]
  rw [whole, List.append_assoc, List.append_assoc, ← List.append_assoc after]
  exact (List.perm_append_singleton ch _).append_left before

theorem stopChannel_connectors (sid : SocketId) (net : Network) :
    (net.stopChannel sid).connectors = net.connectors := by
  rw [stopChannel]
  split <;> rfl

theorem stopChannel_curIdx (sid : SocketId) (net : Network) : (net.stopChannel sid).curIdx = net.curIdx := by
  rw [stopChannel]
  split <;> rfl

/-- A channel that is not the stopped one stays open. -/
theorem mem_stopChannel {net : Network} {sid : SocketId} {ch : Channel} (member : ch ∈ net.channels)
    (other : ch.sid ≠ sid) : ch ∈ (net.stopChannel sid).channels := by
  rw [stopChannel]
  split
  · exact member
  · exact (List.mem_eraseP_of_neg (by simpa using other)).mpr member

namespace Sound
variable {net : Network}

theorem stopChannel (sound : Sound net) (sid : SocketId) : Sound (net.stopChannel sid) :=
  sound.of_perm (stopChannel_perm sid net) (stopChannel_curIdx sid net) (stopChannel_connectors sid net ▸ .refl _)

theorem releaseConnector (sound : Sound net) (sid : SocketId) : Sound (net.releaseConnector sid) :=
  sound.of_perm (.refl _) rfl List.eraseP_sublist

theorem startConnect (sound : Sound net) (ep : Endpoint) (starts : Bool) :
    Sound (net.startConnect ep starts).2 := by
  rw [Network.startConnect]
  cases starts with
  | false =>
    refine ⟨sound.unique, ?_, sound.single, ?_, sound.unopened, sound.opened⟩
    · exact fun wire member => (sound.below wire member).trans (Nat.le_succ _)
    · exact fun c member => (sound.pending c member).trans (Nat.le_succ _)
  | true =>
    have later : ∀ wire ∈ net.wires, wire.1 ≠ ⟨.client, net.curIdx + 1⟩ := by
      intro wire member same
      have small := sound.below wire member
      rw [same] at small
      exact absurd small (Nat.not_succ_le_self _)
    simp only [if_true]
    refine ⟨sound.unique, fun wire member => (sound.below wire member).trans (Nat.le_succ _), ?_, ?_, ?_, ?_⟩
    · rw [List.map_append, List.nodup_append]
      refine ⟨sound.single, List.nodup_singleton _, ?_⟩
      intro a member b last equal
      obtain ⟨c, found, same⟩ := List.mem_map.mp member
      have small := sound.pending c found
      rw [List.map_singleton, List.mem_singleton] at last
      rw [same, equal, last] at small
      exact absurd small (Nat.not_succ_le_self _)
    · intro c member
      rcases List.mem_append.mp member with old | new
      · exact (sound.pending c old).trans (Nat.le_succ _)
      · rw [List.mem_singleton.mp new]
    · intro c member phase wire found
      rcases List.mem_append.mp member with old | new
      · exact sound.unopened c old phase wire found
      · rw [List.mem_singleton.mp new]
        exact later wire found
    · intro c member wire found same
      rcases List.mem_append.mp member with old | new
      · exact sound.opened c old wire found same
      · rw [List.mem_singleton.mp new] at same
        exact (later wire found same).elim

theorem onAccept (sound : Sound net) (remoteAddr localAddr : Endpoint) :
    Sound (net.onAccept remoteAddr localAddr) := by
  have wires : (net.onAccept remoteAddr localAddr).wires.Perm
    ((⟨.server, net.curIdx + 1⟩, remoteAddr) :: net.wires) := by
    rw [Network.wires, Network.onAccept, List.append_assoc, List.singleton_append]
    exact (List.perm_middle.map _)
  refine ⟨?_, ?_, sound.single, fun c member => (sound.pending c member).trans (Nat.le_succ _), ?_, ?_⟩
  · rw [(wires.map _).nodup_iff, List.map_cons, List.nodup_cons]
    refine ⟨?_, sound.unique⟩
    intro member
    obtain ⟨wire, found, same⟩ := List.mem_map.mp member
    have small := sound.below wire found
    rw [same] at small
    exact absurd small (Nat.not_succ_le_self _)
  · intro wire member
    rcases List.mem_cons.mp (wires.subset member) with rfl | old
    · exact Nat.le_refl _
    · exact (sound.below wire old).trans (Nat.le_succ _)
  · intro c member phase wire found
    rcases List.mem_cons.mp (wires.subset found) with rfl | old
    · intro same
      have small := sound.pending c member
      rw [← same] at small
      exact absurd small (Nat.not_succ_le_self _)
    · exact sound.unopened c member phase wire old
  · intro c member wire found same
    rcases List.mem_cons.mp (wires.subset found) with rfl | old
    · have small := sound.pending c member
      rw [← same] at small
      exact absurd small (Nat.not_succ_le_self _)
    · exact sound.opened c member wire old same

end Sound

/-- The connectors after one of them has got its outcome. -/
def settle (sid : SocketId) (phase : Phase) (net : Network) : List Connector :=
  net.connectors.map (fun c => if c.sid = sid then { c with phase := phase } else c)

theorem mem_settle {net : Network} {sid : SocketId} {phase : Phase} {c : Connector}
    (member : c ∈ net.settle sid phase) :
    ∃ old ∈ net.connectors, c.sid = old.sid ∧ c.connectAddr = old.connectAddr ∧
      ((old.sid = sid ∧ c.phase = phase) ∨ (old.sid ≠ sid ∧ c = old)) := by
  obtain ⟨old, found, same⟩ := List.mem_map.mp member
  split at same
  · rename_i equal
    exact ⟨old, found, by rw [← same], by rw [← same], Or.inl ⟨equal, by rw [← same]⟩⟩
  · rename_i other
    exact ⟨old, found, by rw [same], by rw [same], Or.inr ⟨other, same.symm⟩⟩

theorem settle_sids (net : Network) (sid : SocketId) (phase : Phase) :
    (net.settle sid phase).map (·.sid) = net.connectors.map (·.sid) := by
  rw [settle, List.map_map]
  refine List.map_congr_left ?_
  intro c _
  simp only [Function.comp]
  split <;> rfl

/-- Either outcome is for a connector that is still at work. -/
theorem onConnect_cases {net other : Network} {sid : SocketId} {localAddr : Endpoint}
    (ran : net.onConnect sid localAddr = some other) :
    ∃ c ∈ net.connectors, c.sid = sid ∧ c.phase = .connecting ∧ other = { net with
      connectors := net.settle sid .connected
      channels := net.channels ++ [Channel.fresh sid c.connectAddr localAddr] } := by
  simp only [onConnect, Option.bind_eq_bind, Option.pure_def] at ran
  obtain ⟨c, found, ran⟩ := Option.bind_eq_some_iff.mp ran
  obtain ⟨_, phase, ran⟩ := Option.bind_eq_some_iff.mp ran
  cases ran
  refine ⟨c, List.mem_of_find?_eq_some found, by simpa using List.find?_some found, ?_, rfl⟩
  by_contra other
  simp [guard, other] at phase

theorem onConnectFail_cases {net other : Network} {sid : SocketId} (ran : net.onConnectFail sid = some other) :
    ∃ c ∈ net.connectors, c.sid = sid ∧ c.phase = .connecting ∧
      other = { net with connectors := net.settle sid .failed } := by
  simp only [onConnectFail, Option.bind_eq_bind, Option.pure_def] at ran
  obtain ⟨c, found, ran⟩ := Option.bind_eq_some_iff.mp ran
  obtain ⟨_, phase, ran⟩ := Option.bind_eq_some_iff.mp ran
  cases ran
  refine ⟨c, List.mem_of_find?_eq_some found, by simpa using List.find?_some found, ?_, rfl⟩
  by_contra other
  simp [guard, other] at phase

namespace Sound
variable {net other : Network} {sid : SocketId}

theorem onConnectFail (sound : Sound net) (ran : net.onConnectFail sid = some other) : Sound other := by
  obtain ⟨c, found, rfl, connecting, rfl⟩ := onConnectFail_cases ran
  refine ⟨sound.unique, sound.below, ?_, ?_, ?_, ?_⟩
  · rw [settle_sids]
    exact sound.single
  · intro d member
    obtain ⟨old, present, same, _⟩ := mem_settle member
    rw [same]
    exact sound.pending old present
  · intro d member phase wire wired
    obtain ⟨old, present, same, _, ⟨_, failed⟩ | ⟨_, equal⟩⟩ := mem_settle member
    · rw [failed] at phase
      cases phase
    · rw [same]
      exact sound.unopened old present (equal ▸ phase) wire wired
  · intro d member wire wired equal
    obtain ⟨old, present, same, address, _⟩ := mem_settle member
    rw [address]
    exact sound.opened old present wire wired (equal.trans same)

theorem onConnect {localAddr : Endpoint} (sound : Sound net) (ran : net.onConnect sid localAddr = some other) :
    Sound other := by
  obtain ⟨c, found, rfl, connecting, rfl⟩ := onConnect_cases ran
  generalize whole : ({ net with
    connectors := net.settle c.sid .connected
    channels := net.channels ++ [Channel.fresh c.sid c.connectAddr localAddr] } : Network) = after
  have wires : after.wires.Perm ((c.sid, c.connectAddr) :: net.wires) := by
    rw [← whole, Network.wires, List.append_assoc, List.singleton_append]
    exact List.perm_middle.map _
  have curIdx : after.curIdx = net.curIdx := by rw [← whole]
  have connectors : after.connectors = net.settle c.sid .connected := by rw [← whole]
  have unopened := sound.unopened c found connecting
  -- the other connectors have other ids
  have apart : ∀ d ∈ net.connectors, d.sid = c.sid → d = c :=
    fun d member same => List.inj_on_of_nodup_map sound.single member found same
  refine ⟨?_, ?_, ?_, ?_, ?_, ?_⟩
  · rw [(wires.map _).nodup_iff, List.map_cons, List.nodup_cons]
    refine ⟨?_, sound.unique⟩
    intro member
    obtain ⟨wire, wired, same⟩ := List.mem_map.mp member
    exact unopened wire wired same
  · intro wire member
    rw [curIdx]
    rcases List.mem_cons.mp (wires.subset member) with rfl | old
    · exact sound.pending c found
    · exact sound.below wire old
  · rw [connectors, settle_sids]
    exact sound.single
  · intro d member
    rw [connectors] at member
    obtain ⟨old, present, same, _⟩ := mem_settle member
    rw [same, curIdx]
    exact sound.pending old present
  · intro d member phase wire wired
    rw [connectors] at member
    obtain ⟨old, present, same, _, ⟨_, connected⟩ | ⟨different, equal⟩⟩ := mem_settle member
    · rw [connected] at phase
      cases phase
    · rw [same]
      rcases List.mem_cons.mp (wires.subset wired) with rfl | before
      · exact fun clash => different clash.symm
      · exact sound.unopened old present (equal ▸ phase) wire before
  · intro d member wire wired equal
    rw [connectors] at member
    obtain ⟨old, present, same, address, _⟩ := mem_settle member
    rw [address]
    rcases List.mem_cons.mp (wires.subset wired) with rfl | before
    · rw [apart old present (same.symm.trans equal.symm)]
    · exact sound.opened old present wire before (equal.trans same)

end Sound

end Network

namespace Network

/-- A change of the network that keeps the ids in order and forgets no
channel. -/
structure Evolves (old new : Network) : Prop where
  sound : old.Sound → new.Sound
  wires : old.wires ⊆ new.wires

namespace Evolves

theorem refl (net : Network) : Evolves net net := ⟨fun sound => sound, fun _ member => member⟩

theorem trans {a b c : Network} (first : Evolves a b) (second : Evolves b c) : Evolves a c :=
  ⟨fun sound => second.sound (first.sound sound), fun _ member => second.wires (first.wires member)⟩

theorem wired {a b : Network} (wired : Wired a b) : Evolves b a :=
  ⟨fun sound => sound.wired wired, by rw [wired.wires]; exact fun _ member => member⟩

theorem startConnect (net : Network) (ep : Endpoint) (starts : Bool) :
    Evolves net (net.startConnect ep starts).2 := by
  refine ⟨fun sound => sound.startConnect ep starts, ?_⟩
  cases starts <;> exact fun _ member => member

theorem stopChannel (net : Network) (sid : SocketId) : Evolves net (net.stopChannel sid) :=
  ⟨fun sound => sound.stopChannel sid, (stopChannel_perm sid net).symm.subset⟩

theorem releaseConnector (net : Network) (sid : SocketId) : Evolves net (net.releaseConnector sid) :=
  ⟨fun sound => sound.releaseConnector sid, fun _ member => member⟩

theorem onAccept (net : Network) (remoteAddr localAddr : Endpoint) :
    Evolves net (net.onAccept remoteAddr localAddr) := by
  refine ⟨fun sound => sound.onAccept remoteAddr localAddr, ?_⟩
  refine List.map_subset _ (List.append_subset.mpr ⟨?_, List.subset_append_right _ _⟩)
  exact fun _ member => List.mem_append_left _ (List.mem_append_left _ member)

theorem onConnect {net other : Network} {sid : SocketId} {localAddr : Endpoint}
    (ran : net.onConnect sid localAddr = some other) : Evolves net other := by
  refine ⟨fun sound => sound.onConnect ran, ?_⟩
  obtain ⟨c, _, _, _, rfl⟩ := onConnect_cases ran
  refine List.map_subset _ (List.append_subset.mpr ⟨?_, List.subset_append_right _ _⟩)
  exact fun _ member => List.mem_append_left _ (List.mem_append_left _ member)

theorem onConnectFail {net other : Network} {sid : SocketId} (ran : net.onConnectFail sid = some other) :
    Evolves net other := by
  refine ⟨fun sound => sound.onConnectFail ran, ?_⟩
  obtain ⟨c, _, _, _, rfl⟩ := onConnectFail_cases ran
  exact fun _ member => member

end Evolves

/-- The network is at work for an endpoint: a channel to it is open, or a
connector has not yet got one. A connector that has got a channel counts by
it. -/
def Carries (net : Network) (ep : Endpoint) : Prop :=
  (∃ c ∈ net.connectors, c.connectAddr = ep ∧ c.phase ≠ .connected) ∨ ∃ ch ∈ net.channels, ch.remoteAddr = ep

namespace Carries
variable {net other : Network} {ep : Endpoint}

theorem wired {a b : Network} (wired : Wired a b) (carries : Carries b ep) : Carries a ep := by
  rcases carries with waiting | ⟨ch, member, same⟩
  · exact Or.inl (wired.connectors ▸ waiting)
  · have link : (ch.sid, ch.remoteAddr) ∈ b.links := List.mem_map_of_mem member
    rw [← wired.links] at link
    obtain ⟨ch', member', equal⟩ := List.mem_map.mp link
    exact Or.inr ⟨ch', member', (Prod.mk.inj equal).2.trans same⟩

theorem startConnect (carries : Carries net ep) (target : Endpoint) (starts : Bool) :
    Carries (net.startConnect target starts).2 ep := by
  cases starts with
  | false => exact carries
  | true =>
    rcases carries with ⟨c, member, rest⟩ | opened
    · exact Or.inl ⟨c, List.mem_append_left _ member, rest⟩
    · exact Or.inr opened

theorem started {starts : Bool} (ok : (net.startConnect ep starts).1 = true) :
    Carries (net.startConnect ep starts).2 ep := by
  cases starts with
  | false => cases ok
  | true => exact Or.inl ⟨⟨⟨.client, net.curIdx + 1⟩, ep, .connecting⟩, by simp [Network.startConnect],
      rfl, by simp⟩

theorem onAccept (carries : Carries net ep) (remoteAddr localAddr : Endpoint) :
    Carries (net.onAccept remoteAddr localAddr) ep := by
  rcases carries with waiting | ⟨ch, member, same⟩
  · exact Or.inl waiting
  · exact Or.inr ⟨ch, List.mem_append_left _ member, same⟩

theorem onConnect {sid : SocketId} {localAddr : Endpoint} (sound : net.Sound) (carries : Carries net ep)
    (ran : net.onConnect sid localAddr = some other) : Carries other ep := by
  obtain ⟨c, found, rfl, connecting, rfl⟩ := onConnect_cases ran
  rcases carries with ⟨d, member, same, phase⟩ | ⟨ch, member, same⟩
  · by_cases own : d.sid = c.sid
    · have equal : d = c := List.inj_on_of_nodup_map sound.single member found own
      refine Or.inr ⟨Channel.fresh c.sid c.connectAddr localAddr, by simp, ?_⟩
      rw [← same, equal]
      rfl
    · exact Or.inl ⟨d, List.mem_map.mpr ⟨d, member, if_neg own⟩, same, phase⟩
  · exact Or.inr ⟨ch, List.mem_append_left _ member, same⟩

theorem onConnectFail {sid : SocketId} (carries : Carries net ep) (ran : net.onConnectFail sid = some other) :
    Carries other ep := by
  obtain ⟨c, found, rfl, connecting, rfl⟩ := onConnectFail_cases ran
  rcases carries with ⟨d, member, same, phase⟩ | opened
  · by_cases own : d.sid = c.sid
    · exact Or.inl ⟨{ d with phase := .failed }, List.mem_map.mpr ⟨d, member, if_pos own⟩, same, by simp⟩
    · exact Or.inl ⟨d, List.mem_map.mpr ⟨d, member, if_neg own⟩, same, phase⟩
  · exact Or.inr opened

/-- A connector is released without loss when it has its channel, or when it
was for another endpoint. -/
theorem releaseConnector {sid : SocketId} {c : Connector} (found : net.getConnector sid = some c)
    (idle : c.phase = .connected ∨ c.connectAddr ≠ ep) (carries : Carries net ep) :
    Carries (net.releaseConnector sid) ep := by
  rcases carries with ⟨d, member, same, phase⟩ | opened
  · refine Or.inl ⟨d, ?_, same, phase⟩
    obtain ⟨own, before, after, whole, none⟩ := List.find?_eq_some_iff_append.mp found
    have erased : net.connectors.eraseP (·.sid = sid) = before ++ after := by
      rw [whole, List.eraseP_append_right]
      · simp only [List.eraseP_cons, own, cond_true]
      · intro b member
        simpa using none b member
    change d ∈ net.connectors.eraseP (·.sid = sid)
    rw [erased]
    rw [whole] at member
    rcases List.mem_append.mp member with first | later
    · exact List.mem_append_left _ first
    · rcases List.mem_cons.mp later with rfl | last
      · rcases idle with connected | elsewhere
        · exact (phase connected).elim
        · exact (elsewhere same).elim
      · exact List.mem_append_right _ last
  · exact Or.inr opened

/-- A channel is stopped without loss to any endpoint but its own. -/
theorem stopChannel {sid : SocketId} (carries : Carries net ep)
    (elsewhere : ∀ ch, net.getChannel sid = some ch → ch.remoteAddr ≠ ep) (sound : net.Sound) :
    Carries (net.stopChannel sid) ep := by
  rcases carries with waiting | ⟨ch, member, same⟩
  · exact Or.inl (stopChannel_connectors sid net ▸ waiting)
  · refine Or.inr ⟨ch, mem_stopChannel member ?_, same⟩
    rintro rfl
    cases found : net.getChannel ch.sid with
    | none =>
      have different := List.find?_eq_none.mp found ch member
      simp at different
    | some first =>
      refine elsewhere first found ?_
      obtain ⟨_, _, wire⟩ := getChannel_wire found
      have own : (ch.sid, ch.remoteAddr) ∈ net.wires := List.mem_map.mpr ⟨ch, List.mem_append_left _ member, rfl⟩
      rw [sound.same_peer wire own, same]

end Carries

end Network

end DbcNode
