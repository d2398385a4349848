import NoOS.Lib.Ownership
import NoOS.Network.WifiStep

/-!
# The connection table

`conn_id_to_sock_id` and the `conn_id` of the sockets that are in a connection hold the same
links, also while `wifi_socket_connect` waits with a link for a socket that is not connected
yet.
-/

namespace NoOS
open LinkTable

/-- CONNECTED or WAITING_ACCEPT -/
def SocketState.InConn (state : SocketState) : Prop :=
  state = .connected ∨ state = .waitingAccept

instance : DecidablePred SocketState.InConn := fun state =>
  inferInstanceAs (Decidable (state = _ ∨ state = _))

/-- The table says which socket is in a connection, has each socket once, and releasing a
socket that is in a connection leaves the entries of the others. -/
structure WifiDesc.ConnMapOk (desc : WifiDesc) : Prop where
  iff : ∀ c s, desc.connIdToSockId c = some s ↔ (desc.state s).InConn ∧ desc.connId s = some c
  inj : ∀ c c' s, desc.connIdToSockId c = some s → desc.connIdToSockId c' = some s → c = c'
  release : ∀ s t c, (desc.state s).InConn → t ≠ s → desc.connIdToSockId c = some t →
    (wifiReleaseConn desc s).connIdToSockId c = some t

/-- The event gives a new connection to `s`, which holds a connection id. -/
def WifiDesc.Strays (desc : WifiDesc) (s : SocketId) : ConnEvent → Prop
  | .new c => desc.connIdToSockId c = none ∧ desc.initializedClient = some s ∧
      desc.connId s ≠ none
  | .closed _ => False

/-- A connection is started for a socket that is not in one, with a free connection id, and
the socket is not given another one meanwhile. The server is not in a connection when it is
disconnected, closed or made to listen, and is in use when it is made to listen; if it is
among its own clients when it is closed, then none of these is in a connection. -/
def WifiDesc.ConnCallAllowed (desc : WifiDesc) : WifiCall → Prop
  | .connect s =>
    desc.server.id ≠ some s → desc.state s ≠ .unused → desc.state s ≠ .connected →
      desc.state s ≠ .waitingAccept ∧ (∃ c, desc.connIdToSockId c = none) ∧
      Trace.Guarded interrupt (fun d e => ¬d.Strays s e) (wifiGetUnusedConn desc s).2
        desc.nextCmd.events
  | .disconnect s => desc.server.id = some s → ¬(desc.state s).InConn
  | .close s => desc.server.id = some s → ¬(desc.state s).InConn ∧
      (s ∈ desc.server.clientIds → ∀ t ∈ desc.server.clientIds, ¬(desc.state t).InConn)
  | .listen s _ => desc.server.id = some s → desc.state s ≠ .unused ∧ ¬(desc.state s).InConn
  | .open _ | .send _ _ | .recv _ _ | .bind _ | .accept _ => True

def WifiDesc.ConnAllowed (desc : WifiDesc) : WifiEvent → Prop
  | .call c cmds allocs => { desc with cmds := cmds, allocs := allocs }.ConnCallAllowed c
  | .interrupt _ => True

instance WifiDesc.decidableStrays (desc : WifiDesc) (s : SocketId) :
    (e : ConnEvent) → Decidable (desc.Strays s e)
  | .new _ => inferInstanceAs (Decidable (_ ∧ _))
  | .closed _ => inferInstanceAs (Decidable False)

instance WifiDesc.decidableConnCallAllowed (desc : WifiDesc) :
    (c : WifiCall) → Decidable (desc.ConnCallAllowed c)
  | .connect _ => inferInstanceAs (Decidable (_ → _))
  | .disconnect _ => inferInstanceAs (Decidable (_ → _))
  | .close _ => inferInstanceAs (Decidable (_ → _))
  | .listen _ _ => inferInstanceAs (Decidable (_ → _))
  | .open _ | .send _ _ | .recv _ _ | .bind _ | .accept _ => .isTrue trivial

instance WifiDesc.decidableConnAllowed (desc : WifiDesc) :
    (e : WifiEvent) → Decidable (desc.ConnAllowed e)
  | .call c cmds allocs =>
    inferInstanceAs (Decidable ({ desc with cmds := cmds, allocs := allocs }.ConnCallAllowed c))
  | .interrupt _ => .isTrue trivial

/-- The connection id of a socket that is in a connection, or is being connected. -/
def WifiDesc.link (desc : WifiDesc) (starting : Option SocketId) (s : SocketId) :
    Option ConnId :=
  if (desc.state s).InConn ∨ starting = some s then desc.connId s else none

structure WifiDesc.ConnInv (starting : Option SocketId) (desc : WifiDesc) : Prop where
  linked : Mutual desc.connIdToSockId (desc.link starting)
  listening : ∀ s, desc.state s = .listening →
    desc.server.id = some s ∧ s ∉ desc.server.clientIds
  stack : desc.stackOverflow = false

variable {p : Option SocketId} {d d' : WifiDesc} {s t : SocketId} {c : ConnId} {e : ConnEvent}

lemma WifiDesc.link_eq_update
    (h : ∀ t, t ≠ s → d'.state t = d.state t ∧ d'.connId t = d.connId t) :
    d'.link p = Function.update (d.link p) s (d'.link p s) := by
  funext t
  by_cases ht : t = s
  · rw [ht, Function.update_self]
  · rw [Function.update_of_ne ht]
    simp [link, h t ht]

lemma WifiDesc.link_of_idle (h : ¬(d.state s).InConn) (hp : p ≠ some s) : d.link p s = none := by
  simp [link, h, hp]

lemma WifiDesc.link_of_connId (h : d.connId s = none) : d.link p s = none := by
  simp [link, h]

lemma WifiDesc.link_some (h : d.link p s = some c) :
    ((d.state s).InConn ∨ p = some s) ∧ d.connId s = some c := by
  unfold link at h
  split at h
  · exact ⟨‹_›, h⟩
  · cases h

lemma WifiDesc.link_congr (hold : d.link p s = none) (hnew : d'.link p s = none)
    (h : ∀ t, t ≠ s → d'.state t = d.state t ∧ d'.connId t = d.connId t) :
    d'.link p = d.link p := by
  rw [link_eq_update h, hnew, ← hold, Function.update_eq_self]

lemma WifiDesc.link_connected (d : WifiDesc) (s : SocketId) :
    (d.setState s .connected).link none = d.link (some s) := by
  funext t
  by_cases hts : t = s
  · simp [link, hts, SocketState.InConn]
  · simp [link, hts, Ne.symm hts]

lemma WifiDesc.ConnInv.ok (h : d.ConnInv none) : d.ConnMapOk := by
  have hiff : ∀ c s, d.connIdToSockId c = some s ↔
      (d.state s).InConn ∧ d.connId s = some c := by
    intro c s
    rw [h.linked c s]
    constructor
    · intro hl
      simpa using link_some hl
    · rintro ⟨hs, hc⟩
      simp [link, hs, hc]
  refine ⟨hiff, fun c c' s => (mutual_iff.mp h.linked).1.inj, ?_⟩
  intro s t c hs hts hc
  unfold wifiReleaseConn
  split
  · exact hc
  · rename_i c' hc'
    have hne : c ≠ c' := by
      rintro rfl
      have := (hiff c s).mpr ⟨hs, hc'⟩
      exact hts (Option.some_inj.mp (hc.symm.trans this))
    simpa [hne] using hc

lemma WifiDesc.ConnInv.frame (h : d.ConnInv p) (cb : SocketId → Option CbRef)
    (cbSize : SocketId → UInt32) (heap : CbHeap) (cmds : List AtCmd) (allocs : List CbAlloc) :
    { d with cb := cb, cbSize := cbSize, heap := heap, cmds := cmds, allocs := allocs }.ConnInv p :=
  ⟨h.linked, h.listening, h.stack⟩

/-- A state outside of connections for a socket that has no link. -/
lemma WifiDesc.ConnInv.setState (h : d.ConnInv p) (state : SocketState)
    (hs : ¬(d.state s).InConn) (hp : p ≠ some s) (hstate : ¬state.InConn)
    (hlisten : state = .listening → d.server.id = some s ∧ s ∉ d.server.clientIds) :
    (d.setState s state).ConnInv p := by
  refine ⟨?_, ?_, h.stack⟩
  · have hnew : (d.setState s state).link p s = none := link_of_idle (by simpa using hstate) hp
    rw [link_congr (link_of_idle hs hp) hnew (fun t ht => by simp [ht])]
    exact h.linked
  · intro t ht
    by_cases hts : t = s
    · subst hts
      exact hlisten (by simpa using ht)
    · exact h.listening t (by simpa [hts] using ht)

/-- The end of a connection, whether its id is still there or already gone. -/
lemma WifiDesc.endConn_links (hs : ((d.state s).InConn ∨ p = some s) ∨ d.connId s = none) :
    let d' := (wifiReleaseConn d s).setState s .disconnected
    (d'.connIdToSockId = d.connIdToSockId ∧ d'.link p = d.link p) ∨
      ∃ c, d.link p s = some c ∧ d'.connIdToSockId = Function.update d.connIdToSockId c none ∧
        d'.link p = Function.update (d.link p) s none := by
  cases hc : d.connId s with
  | none =>
    have heq : wifiReleaseConn d s = d := by simp [wifiReleaseConn, hc]
    rw [heq]
    have hnew : (d.setState s .disconnected).link p s = none := link_of_connId hc
    exact .inl ⟨rfl, link_congr (link_of_connId hc) hnew (fun t ht => by simp [ht])⟩
  | some c =>
    have hold : d.link p s = some c := by
      rcases hs with hs | hs
      · simp [link, hs, hc]
      · simp [hs] at hc
    have heq : (wifiReleaseConn d s).setState s .disconnected = { d with
        connId := Function.update d.connId s none
        connIdToSockId := Function.update d.connIdToSockId c none
        state := Function.update d.state s .disconnected } := by
      simp [wifiReleaseConn, hc]
    rw [heq]
    refine .inr ⟨c, hold, rfl, ?_⟩
    rw [link_eq_update (d := d) (s := s) (fun t ht => by simp [ht]), link_of_connId (by simp)]

lemma WifiDesc.ConnInv.endConn (h : d.ConnInv p)
    (hs : ((d.state s).InConn ∨ p = some s) ∨ d.connId s = none) :
    ((wifiReleaseConn d s).setState s .disconnected).ConnInv p := by
  obtain ⟨_, _, heq⟩ := wifiReleaseConn_frame d s
  refine ⟨?_, ?_, ?_⟩
  · rcases endConn_links hs with ⟨hmap, hlink⟩ | ⟨c, hc, hmap, hlink⟩
    · rw [hmap, hlink]
      exact h.linked
    · rw [hmap, hlink]
      exact h.linked.unlink hc
  · rw [heq]
    intro t ht
    by_cases hts : t = s
    · simp [hts] at ht
    · exact h.listening t (by simpa [hts] using ht)
  · rw [heq]
    exact h.stack

lemma WifiDesc.ConnInv.interrupt (h : d.ConnInv p) (he : ∀ s, p = some s → ¬d.Strays s e) :
    (d.interrupt e).ConnInv p := by
  rcases d.interrupt_cases e with heq | ⟨c, s, rfl, hc, hs⟩ | ⟨c, s, rfl, hc⟩
  · rw [heq]
    exact h
  · have hdis := (initializedClient_some hs).2
    have hold : d.link p s = none := by
      by_cases hp : p = some s
      · apply link_of_connId
        by_contra hne
        exact he s hp ⟨hc, hs, hne⟩
      · exact link_of_idle (by rw [hdis]; decide) hp
    rw [interrupt_new hc hs]
    refine ⟨?_, ?_, h.stack⟩
    · have hlink := h.linked.link hc hold
      rw [link_eq_update (d := d) (s := s) (fun t ht => by simp [ht])]
      simpa [link, SocketState.InConn] using hlink
    · intro t ht
      by_cases hts : t = s
      · simp [hts] at ht
      · exact h.listening t (by simpa [hts] using ht)
  · obtain ⟨hs, hid⟩ := link_some ((h.linked c s).mp hc)
    have heq : wifiReleaseConn (d.setState s .disconnected) s =
        (wifiReleaseConn d s).setState s .disconnected := by
      simp [wifiReleaseConn, hid]
    rw [interrupt_closed hc, heq]
    exact h.endConn (.inl hs)

lemma WifiDesc.ConnInv.interrupt' (h : d.ConnInv none) : (d.interrupt e).ConnInv none :=
  h.interrupt (by simp)

/-- A socket in a connection stays there or loses its connection id. -/
lemma WifiDesc.interrupt_inConn (h : (d.state s).InConn ∨ d.connId s = none) (e : ConnEvent) :
    ((d.interrupt e).state s).InConn ∨ (d.interrupt e).connId s = none := by
  rcases d.interrupt_cases e with heq | ⟨c, t, rfl, hc, ht⟩ | ⟨c, t, rfl, hc⟩
  · rwa [heq]
  · rw [interrupt_new hc ht]
    by_cases hst : s = t
    · simp [hst, SocketState.InConn]
    · simpa [hst] using h
  · rw [interrupt_closed hc]
    by_cases hst : s = t
    · subst hst
      right
      unfold wifiReleaseConn
      split
      · assumption
      · simp
    · have hrel : ∀ d : WifiDesc, (wifiReleaseConn d t).state = d.state ∧
          (wifiReleaseConn d t).connId s = d.connId s := by
        intro d
        unfold wifiReleaseConn
        split
        · exact ⟨rfl, rfl⟩
        · simp [hst]
      rw [(hrel _).1, (hrel _).2]
      simpa [hst] using h

lemma WifiDesc.ConnInv.stopConn (h : d.ConnInv none) (hs : (d.state s).InConn) :
    (d.stopConn s).ConnInv none := by
  have hcmd : (atRunCmd d).2.ConnInv none ∧
      (((atRunCmd d).2.state s).InConn ∨ (atRunCmd d).2.connId s = none) :=
    atRunCmd_induction (P := fun d => d.ConnInv none ∧ ((d.state s).InConn ∨ d.connId s = none))
      ⟨h.frame .., .inl hs⟩ fun d e hd => ⟨hd.1.interrupt', interrupt_inConn hd.2 e⟩
  exact hcmd.1.endConn (hcmd.2.imp .inl id)

lemma WifiDesc.ConnInv.release (h : d.ConnInv none) (hs : ¬(d.state s).InConn) :
    (wifiReleaseSocket d s).ConnInv none :=
  h.setState .unused hs (by simp) (by decide) (by simp)

lemma WifiDesc.ConnInv.remove (h : d.ConnInv none) (hs : d.state s = .disconnected)
    (hclients : d.server.id = some s → s ∈ d.server.clientIds →
      ∀ t ∈ d.server.clientIds, ¬(d.state t).InConn) :
    (wifiSocketRemove d s).ConnInv none := by
  have hidle : ¬(d.state s).InConn := by
    rw [hs]
    decide
  by_cases hmem : s ∈ d.server.clientIds
  · by_cases hid : d.server.id = some s
    · rw [wifiSocketRemove_server hmem hid]
      -- no client comes into a connection while they are released
      have hrel : (releaseClients d).ConnInv none ∧
          ∀ t ∈ d.server.clientIds, ¬((releaseClients d).state t).InConn := by
        refine releaseClients_induction
          (P := fun d' => d'.ConnInv none ∧ ∀ t ∈ d.server.clientIds, ¬(d'.state t).InConn)
          ⟨h, hclients hid hmem⟩ ?_
        rintro d' id hid ⟨hd', hout⟩
        obtain ⟨heap, heq⟩ := d'.cbRemove_frame (d'.cb id)
        rw [heq]
        refine ⟨(hd'.frame ..).release (hout id hid), fun t ht => ?_⟩
        by_cases hti : t = id
        · simp [wifiReleaseSocket, hti, SocketState.InConn]
        · simpa [wifiReleaseSocket, hti] using hout t ht
      exact hrel.1.release (hrel.2 s hmem)
    · rw [wifiSocketRemove_client hmem hid]
      exact h.release hidle
  · obtain ⟨heap, heq⟩ := d.cbRemove_frame (d.cb s)
    rw [wifiSocketRemove_own hmem, heq]
    exact (h.frame ..).release hidle

lemma WifiDesc.ConnInv.inConn_of (h : d.ConnInv p) (hun : d.state s ≠ .unused)
    (hdis : d.state s ≠ .disconnected) (hid : d.server.id ≠ some s) : (d.state s).InConn := by
  have hlis : d.state s ≠ .listening := fun hc => hid (h.listening s hc).1
  cases hst : d.state s with
  | unused => exact absurd hst hun
  | waitingAccept => exact .inr rfl
  | disconnected => exact absurd hst hdis
  | connected => exact .inl rfl
  | listening => exact absurd hst hlis

lemma WifiDesc.listening_of (hun : d.state s ≠ .unused) (hdis : d.state s ≠ .disconnected)
    (hidle : ¬(d.state s).InConn) : d.state s = .listening := by
  cases hst : d.state s with
  | unused => exact absurd hst hun
  | waitingAccept => exact absurd (.inr hst) hidle
  | disconnected => exact absurd hst hdis
  | connected => exact absurd (.inl hst) hidle
  | listening => rfl

/-- A socket that is not the server is closed without a further call of itself. -/
lemma WifiDesc.ConnInv.closeConn (h : d.ConnInv none) (hid : d.server.id ≠ some s) (depth : ℕ) :
    (wifiSocketClose (depth + 1) d s).2.ConnInv none := by
  by_cases hun : d.state s = .unused
  · rw [wifiSocketClose_unused hun]
    exact h
  · rw [wifiSocketClose_used hun]
    by_cases hdis : d.state s = .disconnected
    · rw [wifiSocketDisconnect_disconnected hdis]
      exact h.remove hdis fun hs => absurd hs hid
    · rw [wifiSocketDisconnect_conn hun hdis hid]
      have hconn := h.inConn_of hun hdis hid
      obtain ⟨_, _, _, heq⟩ := d.stopConn_frame s
      apply (h.stopConn hconn).remove (d.stopConn_state s)
      intro hs
      rw [heq] at hs
      exact absurd hs hid

/-- The server is bound, outside of connections and not among its own clients. -/
structure WifiDesc.ServerIdle (s : SocketId) (desc : WifiDesc) : Prop where
  inv : desc.ConnInv none
  id : desc.server.id = some s
  client : s ∉ desc.server.clientIds
  idle : ¬(desc.state s).InConn
  used : desc.state s ≠ .unused

lemma WifiDesc.ServerIdle.frame (h : d.ServerIdle s) (cb : SocketId → Option CbRef)
    (cbSize : SocketId → UInt32) (heap : CbHeap) (cmds : List AtCmd) (allocs : List CbAlloc) :
    { d with cb := cb, cbSize := cbSize, heap := heap, cmds := cmds, allocs := allocs }.ServerIdle
      s :=
  ⟨h.inv.frame .., h.id, h.client, h.idle, h.used⟩

lemma WifiDesc.ServerIdle.congr (h : d.ServerIdle s) (hinv : d'.ConnInv none)
    (hserver : d'.server = d.server) (hstate : d'.state s = d.state s) : d'.ServerIdle s := by
  refine ⟨hinv, ?_, ?_, ?_, ?_⟩
  · rw [hserver]
    exact h.id
  · rw [hserver]
    exact h.client
  · rw [hstate]
    exact h.idle
  · rw [hstate]
    exact h.used

lemma WifiDesc.ServerIdle.interrupt (h : d.ServerIdle s) (e : ConnEvent) :
    (d.interrupt e).ServerIdle s := by
  obtain ⟨connId, state, map, heq⟩ := d.interrupt_frame e
  refine h.congr h.inv.interrupt' (by rw [heq]) ?_
  rcases d.interrupt_cases e with heq | ⟨c, t, rfl, hc, ht⟩ | ⟨c, t, rfl, hc⟩
  · rw [heq]
  · have hst : s ≠ t := by
      rintro rfl
      exact h.client (initializedClient_some ht).1
    rw [interrupt_new hc ht]
    simp [hst]
  · have hst : s ≠ t := by
      rintro rfl
      have hconn := (link_some ((h.inv.linked c s).mp hc)).1
      exact h.idle (by simpa using hconn)
    obtain ⟨_, _, hrel⟩ := wifiReleaseConn_frame (d.setState t .disconnected) t
    rw [interrupt_closed hc, hrel]
    simp [hst]

lemma WifiDesc.ServerIdle.atRunCmd (h : d.ServerIdle s) : (atRunCmd d).2.ServerIdle s :=
  atRunCmd_induction (h.frame ..) fun _ e hd => hd.interrupt e

lemma WifiDesc.ServerIdle.closeConn (h : d.ServerIdle s) (ht : t ≠ s) (depth : ℕ) :
    (wifiSocketClose (depth + 1) d t).2.ServerIdle s := by
  have hid : d.server.id ≠ some t := by
    rw [h.id]
    exact fun hc => ht (Option.some_inj.mp hc).symm
  have hinv := h.inv.closeConn hid depth
  by_cases hun : d.state t = .unused
  · rw [wifiSocketClose_unused hun]
    exact h
  · rw [wifiSocketClose_used hun] at hinv ⊢
    by_cases hdis : d.state t = .disconnected
    · rw [wifiSocketDisconnect_disconnected hdis] at hinv ⊢
      obtain ⟨_, _, heq⟩ := wifiSocketRemove_frame hid
      exact h.congr hinv (by rw [heq]) (by rw [heq]; simp [ht.symm])
    · rw [wifiSocketDisconnect_conn hun hdis hid] at hinv ⊢
      have hcmd := h.atRunCmd
      obtain ⟨_, _, hrel⟩ := wifiReleaseConn_frame (NoOS.atRunCmd d).2 t
      have hstop : (d.stopConn t).server = (NoOS.atRunCmd d).2.server ∧
          (d.stopConn t).state s = (NoOS.atRunCmd d).2.state s := by
        rw [stopConn, hrel]
        simp [ht.symm]
      have hid' : (d.stopConn t).server.id ≠ some t := by
        rw [hstop.1, hcmd.id]
        exact fun hc => ht (Option.some_inj.mp hc).symm
      obtain ⟨_, _, heq⟩ := wifiSocketRemove_frame hid'
      refine hcmd.congr hinv ?_ ?_
      · rw [heq]
        exact hstop.1
      · rw [heq]
        simpa [ht.symm] using hstop.2

lemma WifiDesc.ServerIdle.backLog (h : d.ServerIdle s) (depth : ℕ) :
    (removeServerBackLog (wifiSocketClose (depth + 1)) d).ServerIdle s := by
  apply removeServerBackLog_induction h
  intro d' t ht hd'
  have hts : t ≠ s := by
    rintro rfl
    exact h.client ht
  obtain ⟨heap, heq⟩ := d'.cbRemove_frame (d'.cb t)
  rw [heq]
  exact (hd'.frame ..).closeConn hts depth

lemma WifiDesc.ServerIdle.stopServer (h : d.ServerIdle s) (depth : ℕ) :
    (d.stopServer (wifiSocketClose (depth + 1)) s).ConnInv none := by
  have hback := h.atRunCmd.backLog depth
  have hset := hback.inv.setState .disconnected hback.idle (by simp) (by decide)
    (by simp)
  refine ⟨hset.linked, ?_, hset.stack⟩
  intro t ht
  by_cases hts : t = s
  · simp [WifiDesc.stopServer, hts] at ht
  · have hlis := (hback.inv.listening t (by simpa [WifiDesc.stopServer, hts] using ht)).1
    rw [hback.id] at hlis
    exact absurd (Option.some_inj.mp hlis).symm hts

lemma WifiDesc.ServerIdle.addClient (h : d.ServerIdle s) (ht : t ≠ s)
    (hdis : d.state t = .disconnected) : (d.addClient t).ServerIdle s := by
  have hset := h.inv.setState (s := t) .disconnected (by rw [hdis]; decide) (by simp)
    (by decide) (by simp)
  have hstate : Function.update d.state t .disconnected s = d.state s := by simp [ht.symm]
  refine ⟨⟨hset.linked, ?_, hset.stack⟩, h.id, ?_, ?_, ?_⟩
  · intro u hu
    have hut : u ≠ t := by
      rintro rfl
      simp [WifiDesc.addClient] at hu
    have hlis := h.inv.listening u (by simpa [WifiDesc.addClient, hut] using hu)
    exact ⟨hlis.1, by simp [WifiDesc.addClient, hlis.2, hut]⟩
  · simp [WifiDesc.addClient, h.client, ht.symm]
  · exact fun hc => h.idle (hstate ▸ hc)
  · exact fun hc => h.used (hstate ▸ hc)

lemma WifiDesc.ServerIdle.listenLoop (h : d.ServerIdle s) (depth n : ℕ) :
    (listenLoop (depth + 1) s n d).2.ServerIdle s := by
  induction n generalizing d with
  | zero => exact h
  | succ n ih =>
    unfold NoOS.listenLoop
    cases hfree : d.firstIn .unused with
    | none =>
      rw [wifiSocketOpen_none hfree]
      exact h
    | some t =>
      have hun := WifiDesc.firstIn_some hfree
      have hts : t ≠ s := by
        rintro rfl
        exact h.used hun
      by_cases hmem : d.nextAlloc.Fits (d.cbSize s)
      · rw [wifiSocketOpen_ok hfree hmem]
        -- the new socket, whatever buffers the two get
        have hopen : ∀ cb cbSize heap allocs, { d with
            state := Function.update d.state t .disconnected
            cb := cb, cbSize := cbSize, heap := heap, allocs := allocs }.ServerIdle s := by
          intro cb cbSize heap allocs
          have hset := h.inv.setState (s := t) .disconnected (by rw [hun]; decide)
            (by simp) (by decide) (by simp)
          have hidle : (d.setState t .disconnected).ServerIdle s :=
            h.congr hset rfl (by simp [hts.symm])
          exact hidle.frame cb cbSize heap d.cmds allocs
        have hadd : ∀ cb cbSize heap allocs, ({ d with
            state := Function.update d.state t .disconnected
            cb := cb, cbSize := cbSize, heap := heap, allocs := allocs }.addClient t).ServerIdle s :=
          fun cb cbSize heap allocs => (hopen cb cbSize heap allocs).addClient hts (by simp)
        simp only
        split
        · exact ih (hadd ..)
        · obtain ⟨cb, heap, hcb⟩ := WifiDesc.cbInit_frame { d with
            state := Function.update d.state t .disconnected
            cb := Function.update d.cb t (some d.heap.next)
            cbSize := Function.update d.cbSize t (d.cbSize s)
            heap := { d.heap with
              next := d.heap.next + 1
              live := insert d.heap.next d.heap.live }
            allocs := d.allocs.tail } t (Function.update d.cbSize t (d.cbSize s) s)
          rw [hcb]
          split
          · exact (hopen ..).closeConn hts depth
          · exact ih (hadd ..)
      · obtain ⟨ret, cb, next, -, hopen, -⟩ := wifiSocketOpen_error hfree hmem
        rw [hopen]
        exact h.frame ..

lemma WifiDesc.ConnInv.listen (h : d.ConnInv none) (depth : ℕ) (n : UInt32)
    (hs : d.server.id = some s → d.state s ≠ .unused ∧ ¬(d.state s).InConn) :
    (wifiSocketListen (depth + 1) d s n).2.ConnInv none := by
  unfold wifiSocketListen
  by_cases hid : d.server.id = some s
  · obtain ⟨hused, hidle⟩ := hs hid
    have hstart : { d with server := { d.server with clientIds := [] } }.ServerIdle s :=
      ⟨⟨h.linked, fun t ht => ⟨(h.listening t ht).1, by simp⟩, h.stack⟩, hid, by simp, hidle, hused⟩
    rw [if_neg (fun hne => hne hid)]
    have hloop := hstart.listenLoop depth (nbClients n)
    dsimp only
    split
    · exact (hloop.backLog depth).inv
    · have hcmd := hloop.atRunCmd
      split
      · exact (hcmd.backLog depth).inv
      · exact hcmd.inv.setState .listening hcmd.idle (by simp) (by decide) fun _ => ⟨hcmd.id, hcmd.client⟩
  · rw [if_pos hid]
    exact h

lemma WifiDesc.ConnInv.open (h : d.ConnInv none) (n : UInt32) :
    (wifiSocketOpen d n).2.ConnInv none := by
  cases hfree : d.firstIn .unused with
  | none =>
    rw [wifiSocketOpen_none hfree]
    exact h
  | some t =>
    by_cases hmem : d.nextAlloc.Fits n
    · rw [wifiSocketOpen_ok hfree hmem]
      have hun := firstIn_some hfree
      have hset := h.setState (s := t) .disconnected (by rw [hun]; decide) (by simp)
        (by decide) (by simp)
      exact hset.frame ..
    · obtain ⟨ret, cb, next, -, hopen, -⟩ := wifiSocketOpen_error hfree hmem
      rw [hopen]
      exact h.frame ..

lemma WifiDesc.ConnInv.disconnect (h : d.ConnInv none) (depth : ℕ)
    (hs : d.server.id = some s → ¬(d.state s).InConn) :
    (wifiSocketDisconnect (wifiSocketClose (depth + 1)) d s).2.ConnInv none := by
  by_cases hun : d.state s = .unused
  · simpa [wifiSocketDisconnect, hun] using h
  · by_cases hdis : d.state s = .disconnected
    · rw [wifiSocketDisconnect_disconnected hdis]
      exact h
    · by_cases hid : d.server.id = some s
      · rw [wifiSocketDisconnect_server hun hdis hid]
        have hlis := listening_of hun hdis (hs hid)
        exact ServerIdle.stopServer ⟨h, hid, (h.listening s hlis).2, hs hid, hun⟩ depth
      · rw [wifiSocketDisconnect_conn hun hdis hid]
        exact h.stopConn (h.inConn_of hun hdis hid)

lemma WifiDesc.ConnInv.close (h : d.ConnInv none) (depth : ℕ)
    (hs : d.server.id = some s → ¬(d.state s).InConn ∧
      (s ∈ d.server.clientIds → ∀ t ∈ d.server.clientIds, ¬(d.state t).InConn)) :
    (wifiSocketClose (depth + 2) d s).2.ConnInv none := by
  by_cases hid : d.server.id = some s
  · by_cases hun : d.state s = .unused
    · rw [wifiSocketClose_unused hun]
      exact h
    · have hdisc := h.disconnect depth fun hid => (hs hid).1
      rw [wifiSocketClose_used hun]
      by_cases hdis : d.state s = .disconnected
      · rw [wifiSocketDisconnect_disconnected hdis]
        exact h.remove hdis fun hid => (hs hid).2
      · rw [wifiSocketDisconnect_server hun hdis hid] at hdisc ⊢
        exact hdisc.remove (by simp [WifiDesc.stopServer]) (by simp [WifiDesc.stopServer])
  · exact h.closeConn hid (depth + 1)

lemma WifiDesc.ConnInv.connect (h : d.ConnInv none)
    (hs : d.server.id ≠ some s → d.state s ≠ .unused → d.state s ≠ .connected →
      d.state s ≠ .waitingAccept ∧ (∃ c, d.connIdToSockId c = none) ∧
      Trace.Guarded WifiDesc.interrupt (fun d e => ¬d.Strays s e) (wifiGetUnusedConn d s).2
        d.nextCmd.events) :
    (wifiSocketConnect d s).2.ConnInv none := by
  unfold wifiSocketConnect
  by_cases hid : d.server.id = some s
  · simpa [hid] using h
  by_cases hun : d.state s = .unused
  · simpa [hid, hun] using h
  by_cases hcon : d.state s = .connected
  · simpa [hid, hcon] using h
  obtain ⟨hwait, ⟨c₀, hc₀⟩, hstray⟩ := hs hid hun hcon
  have hidle : ¬(d.state s).InConn := fun hc => hc.elim hcon hwait
  simp only [hid, hun, hcon, if_false, isErrValueU32_eq, Bool.false_eq_true]
  -- the new link is for a socket that is not connected yet
  have hstart : (wifiGetUnusedConn d s).2.ConnInv (some s) := by
    unfold wifiGetUnusedConn
    split
    · rename_i c hc
      have hfree : d.connIdToSockId c = none := by simpa using List.find?_some hc
      refine ⟨?_, h.listening, h.stack⟩
      have hlink := h.linked.link hfree (link_of_idle hidle (by simp))
      have hsame : WifiDesc.link { d with
          connIdToSockId := Function.update d.connIdToSockId c (some s)
          connId := Function.update d.connId s (some c) } (some s) =
          Function.update (d.link none) s (some c) := by
        funext t
        by_cases hts : t = s
        · simp [WifiDesc.link, hts]
        · simp [WifiDesc.link, hts, Ne.symm hts]
      rwa [hsame]
    · rename_i hc
      simpa [hc₀] using List.find?_eq_none.mp hc c₀ (List.mem_finRange c₀)
  have hcmd : (atRunCmd (wifiGetUnusedConn d s).2).2.ConnInv (some s) := by
    have hnext : (wifiGetUnusedConn d s).2.nextCmd = d.nextCmd := by
      unfold wifiGetUnusedConn
      split
      · rfl
      · rfl
    have hguard := hstray.map (fun d' => { d' with
        cmds := (wifiGetUnusedConn d s).2.cmds.tail, allocs := (wifiGetUnusedConn d s).2.allocs })
      (fun d' e => d'.interrupt_cmds _ _ e) (fun d' e => by cases e <;> exact id)
    rw [← hnext] at hguard
    refine (hguard.always (P := fun d => d.ConnInv (some s)) (hstart.frame ..) ?_).last
    rintro d' e hd' he
    exact hd'.interrupt fun t ht => Option.some_inj.mp ht ▸ he
  refine ⟨?_, ?_, hcmd.stack⟩
  · rw [link_connected]
    exact hcmd.linked
  · intro t ht
    by_cases hts : t = s
    · simp [hts] at ht
    · exact hcmd.listening t (by simpa [hts] using ht)

lemma WifiDesc.ConnInv.accept (h : d.ConnInv none) : (wifiSocketAccept d s).2.ConnInv none := by
  unfold wifiSocketAccept
  split
  · exact h
  · split
    · exact h
    · split
      · rename_i t ht
        have hwait := firstIn_some ht
        have hlink : (d.setState t .connected).link none = d.link none := by
          funext u
          by_cases hut : u = t
          · simp [WifiDesc.link, hut, hwait, SocketState.InConn]
          · simp [WifiDesc.link, hut]
        refine ⟨?_, ?_, h.stack⟩
        · rw [hlink]
          exact h.linked
        · intro u hu
          by_cases hut : u = t
          · simp [hut] at hu
          · exact h.listening u (by simpa [hut] using hu)
      · exact h

lemma WifiDesc.ConnInv.bind (h : d.ConnInv none) : (wifiSocketBind d s).2.ConnInv none := by
  unfold wifiSocketBind
  split
  · exact h
  · rename_i hid
    split
    · exact h
    · refine ⟨h.linked, ?_, h.stack⟩
      intro t ht
      have hlis := (h.listening t ht).1
      simp [hlis] at hid

lemma WifiDesc.ConnInv.send (h : d.ConnInv none) (size : UInt32) :
    (wifiSocketSend d s size).2.ConnInv none := by
  unfold wifiSocketSend
  split
  · exact h
  · split
    · exact h
    · refine sendLoop_induction h fun d hd => ?_
      exact atRunCmd_induction (hd.frame ..) fun d e hd => hd.interrupt'

/-- Every allowed event keeps the links of the two sides together. -/
theorem WifiDesc.ConnInv.step (h : d.ConnInv none) (depth : ℕ) {e : WifiEvent}
    (he : d.ConnAllowed e) : (d.step (depth + 2) e).ConnInv none := by
  cases e with
  | interrupt e => exact h.interrupt'
  | call c cmds allocs =>
    have hd : { d with cmds := cmds, allocs := allocs }.ConnInv none := h.frame ..
    cases c with
    | «open» n => exact hd.open n
    | close s => exact hd.close depth he
    | connect s => exact hd.connect he
    | disconnect s => exact hd.disconnect (depth + 1) he
    | send s size => exact hd.send size
    | recv s size => exact hd
    | bind s => exact hd.bind
    | listen s n => exact hd.listen (depth + 1) n he
    | accept s => exact hd.accept

lemma wifiInit_connInv : wifiInit.ConnInv none := by
  refine ⟨fun c s => ?_, ?_, rfl⟩
  · simp [wifiInit, WifiDesc.link, SocketState.InConn]
  · intro s hs
    cases hs

theorem wifi_conn_map (depth : ℕ) (es : List WifiEvent)
    (h : Trace.Guarded (WifiDesc.step (depth + 2)) WifiDesc.ConnAllowed wifiInit es) :
    Trace.Always (WifiDesc.step (depth + 2))
      (fun desc => desc.ConnMapOk ∧ desc.stackOverflow = false) wifiInit es := by
  have hinv := h.always wifiInit_connInv fun _ _ hd he => hd.step depth he
  exact hinv.mono fun _ hd => ⟨hd.ok, hd.stack⟩

/-- A connection lost while it is started, and a client accepted. -/
theorem wifi_conn_map_server :
    Trace.Always (WifiDesc.step 2) (fun desc => desc.ConnMapOk ∧ desc.stackOverflow = false)
      wifiInit
      [.call (.open 16) [] [], .call (.open 16) [] [], .call (.bind 1) [] [],
        .call (.connect 0) [{ events := [.closed 0] }] [], .call (.listen 1 2) [] [],
        .interrupt (.new 0), .call (.accept 1) [] [], .call (.close 0) [{}] []] :=
  wifi_conn_map 0 _ (by decide)

/-- With all connection ids taken, a fifth socket is connected with the id 0 that it has had
from the start. -/
theorem wifi_conn_map_fifth :
    ¬(Trace.run (WifiDesc.step 2) wifiInit
      [.call (.open 16) [] [], .call (.open 16) [] [], .call (.open 16) [] [],
        .call (.open 16) [] [], .call (.open 16) [] [], .call (.connect 0) [] [],
        .call (.connect 1) [] [], .call (.connect 2) [] [], .call (.connect 3) [] [],
        .call (.connect 4) [] []]).ConnMapOk := by
  intro h
  exact absurd ((h.iff 0 4).mpr (by decide)) (by decide)

end NoOS
