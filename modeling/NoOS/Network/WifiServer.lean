import Mathlib.Data.Fintype.Card
import NoOS.Network.WifiStep

/-!
# The server registration

The server is a socket in use, and its clients are sockets in use that are kept for it. The
functions that release a registered socket leave it in the registration.
-/

namespace NoOS

structure WifiDesc.ServerOk (desc : WifiDesc) : Prop where
  bound : ∀ s, desc.server.id = some s → desc.state s ≠ .unused ∧ s ∉ desc.server.clientIds
  clients : ∀ s ∈ desc.server.clientIds, desc.state s ≠ .unused
  nodup : desc.server.clientIds.Nodup
  unbound : desc.server.id = none → desc.server.clientIds = []

/-- With a socket and memory to spare, a socket in use is bound if no other one is, and then
made to listen. -/
def WifiDesc.CanListen (desc : WifiDesc) : Prop :=
  ∀ depth s t, desc.state s ≠ .unused → desc.cbSize s ≠ 0 → desc.state t = .unused →
    desc.server.id = none ∨ desc.server.id = some s →
    (desc.server.id = none → (wifiSocketBind desc s).1 = SUCCESS) ∧
      (wifiSocketListen depth { (wifiSocketBind desc s).2 with cmds := [], allocs := [] } s 1).1 =
        SUCCESS

/-- `wifi_socket_open` gives neither the server nor a client of it. -/
def WifiDesc.Reserves (desc : WifiDesc) : Prop :=
  ∀ n t, (wifiSocketOpen desc n).1 = .ok t →
    desc.server.id ≠ some t ∧ t ∉ desc.server.clientIds

/-- `wifi_socket_listen` keeps no client that it opens. -/
def WifiDesc.KeepsNone (desc : WifiDesc) (s : SocketId) : Prop :=
  desc.firstIn .unused = none ∨ ¬desc.nextAlloc.Fits (desc.cbSize s) ∨
    (desc.cb s = none ∧ ¬(desc.allocs.tail.headD {}).Fits (desc.cbSize s))

def WifiDesc.nbUnused (desc : WifiDesc) : ℕ :=
  (Finset.univ.filter fun i => desc.state i = .unused).card

/-- There are sockets and memory for all clients, and the module becomes a server. -/
def WifiDesc.KeepsAll (desc : WifiDesc) (s : SocketId) (backLog : UInt32) : Prop :=
  nbClients backLog ≤ desc.nbUnused ∧ (∀ a ∈ desc.allocs, a.desc = true ∧ a.buff = true) ∧
    desc.cbSize s ≠ 0 ∧ isErrValue desc.nextCmd.ret = false

/-- The server is not closed while it is disconnected, and is closed or disconnected without
clients only; no client is closed; listening keeps no client or all of them. -/
def WifiDesc.ServerCallAllowed (desc : WifiDesc) : WifiCall → Prop
  | .close s => desc.state s ≠ .unused →
      if desc.server.id = some s then
        desc.state s ≠ .disconnected ∧ desc.server.clientIds = []
      else s ∉ desc.server.clientIds
  | .disconnect s => desc.server.id = some s → desc.state s ≠ .disconnected →
      desc.server.clientIds = []
  | .listen s n => desc.server.id = some s → desc.KeepsNone s ∨ desc.KeepsAll s n
  | .open _ | .connect _ | .send _ _ | .recv _ _ | .bind _ | .accept _ => True

def WifiDesc.ServerAllowed (desc : WifiDesc) : WifiEvent → Prop
  | .call c cmds allocs => { desc with cmds := cmds, allocs := allocs }.ServerCallAllowed c
  | .interrupt _ => True

instance WifiDesc.decidableKeepsNone (desc : WifiDesc) (s : SocketId) :
    Decidable (desc.KeepsNone s) :=
  inferInstanceAs (Decidable (_ ∨ _))

instance WifiDesc.decidableKeepsAll (desc : WifiDesc) (s : SocketId) (backLog : UInt32) :
    Decidable (desc.KeepsAll s backLog) :=
  inferInstanceAs (Decidable (_ ∧ _))

instance WifiDesc.decidableServerCallAllowed (desc : WifiDesc) :
    (c : WifiCall) → Decidable (desc.ServerCallAllowed c)
  | .close _ => inferInstanceAs (Decidable (_ → _))
  | .disconnect _ => inferInstanceAs (Decidable (_ → _))
  | .listen _ _ => inferInstanceAs (Decidable (_ → _))
  | .open _ | .connect _ | .send _ _ | .recv _ _ | .bind _ | .accept _ => .isTrue trivial

instance WifiDesc.decidableServerAllowed (desc : WifiDesc) :
    (e : WifiEvent) → Decidable (desc.ServerAllowed e)
  | .call c cmds allocs =>
    inferInstanceAs (Decidable ({ desc with cmds := cmds, allocs := allocs }.ServerCallAllowed c))
  | .interrupt _ => .isTrue trivial

variable {d d' : WifiDesc} {s t : SocketId} {e : ConnEvent}

lemma WifiDesc.ServerOk.congr (h : d.ServerOk) (hserver : d'.server = d.server)
    (hused : ∀ t, d.state t ≠ .unused → d'.state t ≠ .unused) : d'.ServerOk := by
  refine ⟨?_, ?_, ?_, ?_⟩
  · rw [hserver]
    exact fun s hs => ⟨hused s (h.bound s hs).1, (h.bound s hs).2⟩
  · rw [hserver]
    exact fun s hs => hused s (h.clients s hs)
  · rw [hserver]
    exact h.nodup
  · rw [hserver]
    exact h.unbound

lemma WifiDesc.setState_used {state : SocketState} (hstate : state ≠ .unused) (s : SocketId)
    (t : SocketId) (h : d.state t ≠ .unused) : (d.setState s state).state t ≠ .unused := by
  by_cases hts : t = s
  · simpa [hts] using hstate
  · simpa [hts] using h

lemma atRunCmd_used (h : d.state s ≠ .unused) : (atRunCmd d).2.state s ≠ .unused :=
  atRunCmd_induction (P := fun d => d.state s ≠ .unused) h fun _ e hd => WifiDesc.interrupt_used hd e

lemma WifiDesc.ServerOk.interrupt (h : d.ServerOk) (e : ConnEvent) : (d.interrupt e).ServerOk := by
  obtain ⟨_, _, _, heq⟩ := d.interrupt_frame e
  exact h.congr (by rw [heq]) fun _ ht => interrupt_used ht e

lemma WifiDesc.ServerOk.atRunCmd (h : d.ServerOk) : (atRunCmd d).2.ServerOk := by
  obtain ⟨_, _, _, heq⟩ := atRunCmd_frame d
  exact h.congr (by rw [heq]) fun _ ht => atRunCmd_used ht

lemma WifiDesc.stopConn_used (h : d.state t ≠ .unused) (s : SocketId) :
    (d.stopConn s).state t ≠ .unused := by
  obtain ⟨_, _, hrel⟩ := wifiReleaseConn_frame (NoOS.atRunCmd d).2 s
  rw [stopConn, hrel]
  exact setState_used (by decide) s t (atRunCmd_used h)

lemma WifiDesc.ServerOk.stopConn (h : d.ServerOk) (s : SocketId) : (d.stopConn s).ServerOk := by
  obtain ⟨_, _, _, heq⟩ := d.stopConn_frame s
  exact h.congr (by rw [heq]) fun _ ht => stopConn_used ht s

lemma WifiDesc.ServerOk.open (h : d.ServerOk) (n : UInt32) : (wifiSocketOpen d n).2.ServerOk := by
  cases hfree : d.firstIn .unused with
  | none =>
    rw [wifiSocketOpen_none hfree]
    exact h
  | some t =>
    by_cases hmem : d.nextAlloc.Fits n
    · rw [wifiSocketOpen_ok hfree hmem]
      exact h.congr rfl (setState_used (by decide) t)
    · obtain ⟨ret, cb, next, -, hopen, -⟩ := wifiSocketOpen_error hfree hmem
      rw [hopen]
      exact h.congr rfl fun _ => id

lemma WifiDesc.ServerOk.connect (h : d.ServerOk) : (wifiSocketConnect d s).2.ServerOk := by
  have hconn : (wifiGetUnusedConn d s).2.ServerOk := by
    unfold wifiGetUnusedConn
    split
    · exact h.congr rfl fun _ => id
    · exact h
  unfold wifiSocketConnect
  split
  · exact h
  · split
    · exact h
    · split
      · exact h
      · simp only [isErrValueU32_eq, Bool.false_eq_true, if_false]
        exact hconn.atRunCmd.congr rfl (setState_used (by decide) s)

lemma WifiDesc.ServerOk.send (h : d.ServerOk) (size : UInt32) :
    (wifiSocketSend d s size).2.ServerOk := by
  unfold wifiSocketSend
  split
  · exact h
  · split
    · exact h
    · exact sendLoop_induction h fun d hd => hd.atRunCmd

lemma WifiDesc.ServerOk.accept (h : d.ServerOk) : (wifiSocketAccept d s).2.ServerOk := by
  unfold wifiSocketAccept
  split
  · exact h
  · split
    · exact h
    · split
      · exact h.congr rfl (setState_used (by decide) _)
      · exact h

lemma WifiDesc.ServerOk.bind (h : d.ServerOk) : (wifiSocketBind d s).2.ServerOk := by
  unfold wifiSocketBind
  split
  · exact h
  · rename_i hid
    split
    · exact h
    · rename_i hused
      have hnil := h.unbound (not_not.mp hid)
      refine ⟨?_, h.clients, h.nodup, fun hc => by cases hc⟩
      intro t ht
      obtain rfl := Option.some_inj.mp ht
      exact ⟨hused, by simp [hnil]⟩

lemma WifiDesc.stopServer_server (close : WifiDesc → SocketId → Int × WifiDesc)
    (h : d.server.clientIds = []) : (d.stopServer close s).server = {} := by
  obtain ⟨_, _, _, heq⟩ := atRunCmd_frame d
  have hback : removeServerBackLog close (NoOS.atRunCmd d).2 = (NoOS.atRunCmd d).2 := by
    rw [heq]
    simp [removeServerBackLog, h]
  simp only [stopServer, hback, setState]
  rw [heq]
  simp [h]

lemma WifiDesc.serverOk_of_empty (h : d.server = {}) : d.ServerOk := by
  refine ⟨?_, ?_, ?_, ?_⟩
  · simp [h]
  · simp [h]
  · simp [h]
  · simp [h]

lemma WifiDesc.ServerOk.disconnect (h : d.ServerOk)
    (close : WifiDesc → SocketId → Int × WifiDesc)
    (hs : d.server.id = some s → d.state s ≠ .disconnected → d.server.clientIds = []) :
    (wifiSocketDisconnect close d s).2.ServerOk := by
  by_cases hun : d.state s = .unused
  · simpa [wifiSocketDisconnect, hun] using h
  · by_cases hdis : d.state s = .disconnected
    · rw [wifiSocketDisconnect_disconnected hdis]
      exact h
    · by_cases hid : d.server.id = some s
      · rw [wifiSocketDisconnect_server hun hdis hid]
        exact serverOk_of_empty (stopServer_server close (hs hid hdis))
      · rw [wifiSocketDisconnect_conn hun hdis hid]
        exact h.stopConn s

lemma WifiDesc.ServerOk.remove (h : d.ServerOk) (hid : d.server.id ≠ some s)
    (hs : s ∉ d.server.clientIds) : (wifiSocketRemove d s).ServerOk := by
  obtain ⟨cb, heap, heq⟩ := wifiSocketRemove_frame hid
  rw [heq]
  refine ⟨?_, ?_, h.nodup, h.unbound⟩
  · intro t ht
    have hts : t ≠ s := by
      rintro rfl
      exact hid ht
    simpa [hts] using h.bound t ht
  · intro t ht
    have hts : t ≠ s := by
      rintro rfl
      exact hs ht
    simpa [hts] using h.clients t ht

lemma wifiSocketRemove_server_field (h : s ∉ d.server.clientIds) :
    (wifiSocketRemove d s).server = d.server := by
  obtain ⟨heap, heq⟩ := d.cbRemove_frame (d.cb s)
  rw [wifiSocketRemove_own h, heq]
  rfl

lemma WifiDesc.ServerOk.close (h : d.ServerOk) (depth : ℕ)
    (hs : d.state s ≠ .unused →
      if d.server.id = some s then d.state s ≠ .disconnected ∧ d.server.clientIds = []
      else s ∉ d.server.clientIds) :
    (wifiSocketClose (depth + 1) d s).2.ServerOk ∧
      (d.server.id = some s → (wifiSocketClose (depth + 1) d s).2.server.id = none) := by
  by_cases hun : d.state s = .unused
  · rw [wifiSocketClose_unused hun]
    exact ⟨h, fun hid => absurd hun (h.bound s hid).1⟩
  · have hs := hs hun
    rw [wifiSocketClose_used hun]
    by_cases hid : d.server.id = some s
    · rw [if_pos hid] at hs
      rw [wifiSocketDisconnect_server hun hs.1 hid]
      have hserver : (wifiSocketRemove (d.stopServer (wifiSocketClose depth) s) s).server = {} := by
        have hstop := stopServer_server (s := s) (wifiSocketClose depth) hs.2
        rw [wifiSocketRemove_server_field (by simp [hstop]), hstop]
      exact ⟨serverOk_of_empty hserver, fun _ => by simp [hserver]⟩
    · rw [if_neg hid] at hs
      refine ⟨?_, fun hc => absurd hc hid⟩
      by_cases hdis : d.state s = .disconnected
      · rw [wifiSocketDisconnect_disconnected hdis]
        exact h.remove hid hs
      · rw [wifiSocketDisconnect_conn hun hdis hid]
        obtain ⟨_, _, _, heq⟩ := d.stopConn_frame s
        exact (h.stopConn s).remove (by rw [heq]; exact hid) (by rw [heq]; exact hs)

lemma WifiDesc.nbUnused_opened (d' : WifiDesc) (h : d.state t = .unused)
    (hstate : d'.state = Function.update d.state t .disconnected) :
    d.nbUnused = d'.nbUnused + 1 := by
  have hmem : t ∈ Finset.univ.filter fun i => d.state i = .unused := by simp [h]
  have herase : (Finset.univ.filter fun i => d'.state i = .unused) =
      (Finset.univ.filter fun i => d.state i = .unused).erase t := by
    ext u
    by_cases hut : u = t
    · simp [hstate, hut]
    · simp [hstate, hut]
  rw [nbUnused, nbUnused, herase, Finset.card_erase_add_one hmem]

lemma WifiDesc.firstIn_of_pos (h : 0 < d.nbUnused) : ∃ t, d.firstIn .unused = some t := by
  obtain ⟨t, ht⟩ := Finset.card_pos.mp h
  cases hfree : d.firstIn .unused with
  | none => exact absurd (Finset.mem_filter.mp ht).2 (firstIn_none hfree t)
  | some t => exact ⟨t, rfl⟩

lemma WifiDesc.ServerOk.addClient (h : d.ServerOk) {cb : SocketId → Option CbRef}
    {cbSize : SocketId → UInt32} {heap : CbHeap} {allocs : List CbAlloc}
    (ht : d.state t = .unused) (hid : d.server.id ≠ none) :
    ({ d with
      state := Function.update d.state t .disconnected
      cb := cb, cbSize := cbSize, heap := heap, allocs := allocs }.addClient t).ServerOk := by
  have hused : ∀ u, d.state u ≠ .unused → u ≠ t := by
    rintro u hu rfl
    exact hu ht
  have hstate : ∀ u, d.state u ≠ .unused ∨ u = t →
      Function.update (Function.update d.state t .disconnected) t .disconnected u ≠ .unused := by
    intro u hu
    by_cases hut : u = t
    · simp [hut]
    · simpa [hut] using hu.resolve_right hut
  refine ⟨?_, ?_, ?_, fun hc => absurd hc hid⟩
  · intro u hu
    obtain ⟨hun, hmem⟩ := h.bound u hu
    exact ⟨hstate u (.inl hun), by simp [WifiDesc.addClient, hmem, hused u hun]⟩
  · intro u hu
    rcases List.mem_append.mp hu with hu | hu
    · exact hstate u (.inl (h.clients u hu))
    · exact hstate u (.inr (List.mem_singleton.mp hu))
  · have hnot : t ∉ d.server.clientIds := fun hc => hused t (h.clients t hc) rfl
    change (d.server.clientIds ++ [t]).Nodup
    rw [← List.concat_eq_append]
    exact h.nodup.concat hnot

lemma WifiDesc.nextAlloc_fits {n : UInt32} (hn : n ≠ 0)
    (h : ∀ a ∈ d.allocs, a.desc = true ∧ a.buff = true) : d.nextAlloc.Fits n := by
  unfold nextAlloc
  cases hl : d.allocs with
  | nil => exact ⟨hn, rfl, rfl⟩
  | cons a as =>
    obtain ⟨hd, hb⟩ := h a (by simp [hl])
    exact ⟨hn, hd, hb⟩

lemma listenLoop_keepsAll (depth : ℕ) {m : ℕ} (h : d.ServerOk) (hid : d.server.id = some s)
    (hsize : d.cbSize s ≠ 0) (hmem : ∀ a ∈ d.allocs, a.desc = true ∧ a.buff = true)
    (hm : m ≤ d.nbUnused) :
    (listenLoop depth s m d).1 = SUCCESS ∧ (listenLoop depth s m d).2.ServerOk ∧
      (listenLoop depth s m d).2.nextCmd = d.nextCmd := by
  induction m generalizing d with
  | zero => exact ⟨rfl, h, rfl⟩
  | succ m ih =>
    obtain ⟨t, hfree⟩ := WifiDesc.firstIn_of_pos (by lia : 0 < d.nbUnused)
    have hun := WifiDesc.firstIn_some hfree
    have hts : s ≠ t := by
      rintro rfl
      exact (h.bound s hid).1 hun
    have htail : ∀ a ∈ d.allocs.tail, a.desc = true ∧ a.buff = true :=
      fun a ha => hmem a (List.mem_of_mem_tail ha)
    have hopen := wifiSocketOpen_ok hfree (WifiDesc.nextAlloc_fits hsize hmem)
    have hsize' : Function.update d.cbSize t (d.cbSize s) s ≠ 0 := by simpa [hts] using hsize
    -- what is left when `t` is a client, whatever buffers the two sockets have
    have hrest : ∀ cb heap allocs, (∀ a ∈ allocs, a.desc = true ∧ a.buff = true) →
        let d' := { d with
          state := Function.update d.state t .disconnected
          cb := cb, cbSize := Function.update d.cbSize t (d.cbSize s)
          heap := heap, allocs := allocs }.addClient t
        (listenLoop depth s m d').1 = SUCCESS ∧ (listenLoop depth s m d').2.ServerOk ∧
          (listenLoop depth s m d').2.nextCmd = d.nextCmd := by
      intro cb heap allocs hallocs d'
      refine ih (d := d') (h.addClient hun (by simp [hid])) hid hsize' hallocs ?_
      have hcount := WifiDesc.nbUnused_opened d' hun (by simp [d', WifiDesc.addClient])
      lia
    by_cases hcb : d.server.clientIds = [] ∧ Function.update d.cb t (some d.heap.next) s ≠ none
    · rw [listenLoop_hand hopen hcb]
      exact hrest _ _ _ htail
    · have hinit := WifiDesc.cbInit_ok t
        (WifiDesc.nextAlloc_fits (d := { d with
          state := Function.update d.state t .disconnected
          cb := Function.update d.cb t (some d.heap.next)
          cbSize := Function.update d.cbSize t (d.cbSize s)
          heap := { d.heap with
            next := d.heap.next + 1
            live := insert d.heap.next d.heap.live }
          allocs := d.allocs.tail }) hsize' htail)
      rw [listenLoop_init hopen hcb hinit, if_neg (by decide)]
      exact hrest _ _ _ fun a ha => htail a (List.mem_of_mem_tail ha)

lemma WifiDesc.ServerOk.listen_keepsAll (h : d.ServerOk) {depth : ℕ} {n : UInt32}
    (hid : d.server.id = some s) (hall : d.KeepsAll s n) :
    (wifiSocketListen depth d s n).1 = SUCCESS ∧ (wifiSocketListen depth d s n).2.ServerOk := by
  obtain ⟨hroom, hmem, hsize, hret⟩ := hall
  have hstart : { d with server := { d.server with clientIds := [] } }.ServerOk :=
    ⟨fun t ht => ⟨(h.bound t ht).1, by simp⟩, by simp, by simp, fun _ => rfl⟩
  obtain ⟨hloop, hok, hcmd⟩ := listenLoop_keepsAll depth hstart hid hsize hmem hroom
  unfold wifiSocketListen
  rw [if_neg (fun hne => hne hid)]
  have hret' : isErrValue (NoOS.atRunCmd (listenLoop depth s (nbClients n)
      { d with server := { d.server with clientIds := [] } }).2).1 = false := by
    change isErrValue (listenLoop depth s (nbClients n)
      { d with server := { d.server with clientIds := [] } }).2.nextCmd.ret = false
    rw [hcmd]
    exact hret
  simp only [hloop, hret', show isErrValue SUCCESS = false from rfl, Bool.false_eq_true, if_false,
    true_and]
  exact hok.atRunCmd.congr rfl (setState_used (by decide) s)

lemma listenLoop_keepsNone (depth : ℕ) {m : ℕ} (h : d.ServerOk) (hid : d.server.id = some s)
    (hnil : d.server.clientIds = []) (hnone : d.KeepsNone s) :
    isErrValue (listenLoop (depth + 1) s (m + 1) d).1 = true ∧
      (listenLoop (depth + 1) s (m + 1) d).2.server = d.server ∧
      (listenLoop (depth + 1) s (m + 1) d).2.ServerOk := by
  cases hfree : d.firstIn .unused with
  | none =>
    rw [listenLoop_stop (wifiSocketOpen_none hfree)]
    exact ⟨rfl, rfl, h⟩
  | some t =>
    have hts : s ≠ t := by
      rintro rfl
      exact (h.bound s hid).1 (WifiDesc.firstIn_some hfree)
    by_cases hmem : d.nextAlloc.Fits (d.cbSize s)
    · have hsecond := (hnone.resolve_left (by simp [hfree])).resolve_left (not_not_intro hmem)
      have hopen := wifiSocketOpen_ok hfree hmem
      have hopened := h.open (d.cbSize s)
      rw [hopen] at hopened
      generalize hd' : ({ d with
        state := Function.update d.state t .disconnected
        cb := Function.update d.cb t (some d.heap.next)
        cbSize := Function.update d.cbSize t (d.cbSize s)
        heap := { d.heap with
          next := d.heap.next + 1
          live := insert d.heap.next d.heap.live }
        allocs := d.allocs.tail } : WifiDesc) = d' at hopen hopened
      have hcb : d'.cb s = none := by
        rw [← hd']
        simpa [hts] using hsecond.1
      have hfail : ¬d'.nextAlloc.Fits (d'.cbSize s) := by
        rw [← hd']
        simpa [hts, WifiDesc.nextAlloc] using hsecond.2
      have hdis : d'.state t = .disconnected := by
        rw [← hd']
        simp
      have hserver : d'.server = d.server := by
        rw [← hd']
      obtain ⟨ret, cb, next, hret, hinit, -⟩ := WifiDesc.cbInit_error t hfail
      rw [listenLoop_init hopen (by simp [hcb]) hinit, if_pos hret]
      -- the new socket is closed again
      generalize hd'' : ({ d' with
        cb := cb, heap := { d'.heap with next := next }, allocs := d'.allocs.tail } : WifiDesc) = d''
      have hok : d''.ServerOk := by
        rw [← hd'']
        exact hopened.congr rfl fun _ => id
      have hserver'' : d''.server = d.server := by
        rw [← hd'', ← hserver]
      have hdis'' : d''.state t = .disconnected := by
        rw [← hd'']
        exact hdis
      have hmem'' : t ∉ d''.server.clientIds := by simp [hserver'', hnil]
      have hid'' : d''.server.id ≠ some t := by
        rw [hserver'', hid]
        exact fun hc => hts (Option.some_inj.mp hc)
      rw [wifiSocketClose_used (by simp [hdis'']), wifiSocketDisconnect_disconnected hdis'']
      exact ⟨hret, (wifiSocketRemove_server_field hmem'').trans hserver'', hok.remove hid'' hmem''⟩
    · obtain ⟨ret, cb, next, hret, hopen, -⟩ := wifiSocketOpen_error hfree hmem
      rw [listenLoop_stop hopen]
      exact ⟨hret, rfl, h.congr rfl fun _ => id⟩

lemma WifiDesc.ServerOk.listen_keepsNone (h : d.ServerOk) {depth : ℕ} {n : UInt32}
    (hid : d.server.id = some s) (hnone : d.KeepsNone s) :
    (wifiSocketListen (depth + 1) d s n).2.ServerOk := by
  obtain ⟨m, hm⟩ := Nat.exists_eq_succ_of_ne_zero (nbClients_pos n).ne'
  have hstart : { d with server := { d.server with clientIds := [] } }.ServerOk :=
    ⟨fun t ht => ⟨(h.bound t ht).1, by simp⟩, by simp, by simp, fun _ => rfl⟩
  obtain ⟨hret, hserver, hok⟩ := listenLoop_keepsNone depth (m := m) hstart hid rfl hnone
  unfold wifiSocketListen
  rw [if_neg (fun hne => hne hid), hm]
  dsimp only
  rw [if_pos hret]
  have hback : removeServerBackLog (wifiSocketClose (depth + 1))
      (listenLoop (depth + 1) s (m + 1)
        { d with server := { d.server with clientIds := [] } }).2 =
      (listenLoop (depth + 1) s (m + 1)
        { d with server := { d.server with clientIds := [] } }).2 := by
    simp [removeServerBackLog, hserver]
  rw [hback]
  exact hok

lemma WifiDesc.ServerOk.listen (h : d.ServerOk) {depth : ℕ} {n : UInt32}
    (hs : d.server.id = some s → d.KeepsNone s ∨ d.KeepsAll s n) :
    (wifiSocketListen (depth + 1) d s n).2.ServerOk := by
  by_cases hid : d.server.id = some s
  · rcases hs hid with hnone | hall
    · exact h.listen_keepsNone hid hnone
    · exact (h.listen_keepsAll hid hall).2
  · simpa [wifiSocketListen, hid] using h

lemma WifiDesc.ServerOk.canListen (h : d.ServerOk) : d.CanListen := by
  intro depth s t hused hsize hun hid
  have hbind : (wifiSocketBind d s).2.server.id = some s ∧
      (wifiSocketBind d s).2.state = d.state ∧ (wifiSocketBind d s).2.cbSize = d.cbSize := by
    rcases hid with hid | hid
    · simp [wifiSocketBind, hid, hused]
    · simp [wifiSocketBind, hid]
  have hok : { (wifiSocketBind d s).2 with cmds := [], allocs := [] }.ServerOk :=
    h.bind.congr rfl fun _ => id
  have hroom : 0 < WifiDesc.nbUnused { (wifiSocketBind d s).2 with cmds := [], allocs := [] } := by
    apply Finset.card_pos.mpr
    exact ⟨t, by simp [hbind.2.1, hun]⟩
  refine ⟨fun hnone => by simp [wifiSocketBind, hnone, hused], ?_⟩
  refine (hok.listen_keepsAll (n := 1) hbind.1 ⟨?_, by simp, ?_, rfl⟩).1
  · exact hroom
  · rw [hbind.2.2]
    exact hsize

lemma WifiDesc.ServerOk.reserves (h : d.ServerOk) : d.Reserves := by
  intro n t ht
  cases hfree : d.firstIn .unused with
  | none => simp [wifiSocketOpen_none hfree] at ht
  | some u =>
    have hun := firstIn_some hfree
    have hut : u = t := by
      by_cases hmem : d.nextAlloc.Fits n
      · simpa [wifiSocketOpen_ok hfree hmem] using ht
      · obtain ⟨ret, cb, next, -, hopen, -⟩ := wifiSocketOpen_error hfree hmem
        simp [hopen] at ht
    subst hut
    exact ⟨fun hid => (h.bound u hid).1 hun, fun hmem => h.clients u hmem hun⟩

/-- Every allowed event keeps the registration in order. -/
theorem WifiDesc.ServerOk.step (h : d.ServerOk) (depth : ℕ) {e : WifiEvent}
    (he : d.ServerAllowed e) : (d.step (depth + 1) e).ServerOk := by
  cases e with
  | interrupt e => exact h.interrupt e
  | call c cmds allocs =>
    have hd : { d with cmds := cmds, allocs := allocs }.ServerOk := h.congr rfl fun _ => id
    cases c with
    | «open» n => exact hd.open n
    | close s => exact (hd.close depth he).1
    | connect s => exact hd.connect
    | disconnect s => exact hd.disconnect _ he
    | send s size => exact hd.send size
    | recv s size => exact hd
    | bind s => exact hd.bind
    | listen s n => exact hd.listen he
    | accept s => exact hd.accept

theorem wifi_server (depth : ℕ) (es : List WifiEvent)
    (h : Trace.Guarded (WifiDesc.step (depth + 1)) WifiDesc.ServerAllowed wifiInit es) :
    Trace.Always (WifiDesc.step (depth + 1))
      (fun desc => desc.ServerOk ∧ desc.Reserves ∧ desc.CanListen) wifiInit es ∧
    ∀ pre s cmds allocs, pre ++ [.call (.close s) cmds allocs] <+: es →
      (Trace.run (WifiDesc.step (depth + 1)) wifiInit pre).server.id = some s →
      (Trace.run (WifiDesc.step (depth + 1)) wifiInit
        (pre ++ [.call (.close s) cmds allocs])).server.id = none := by
  have hinit : wifiInit.ServerOk := WifiDesc.serverOk_of_empty rfl
  have hinv := h.always hinit fun _ _ hd he => hd.step depth he
  refine ⟨hinv.mono fun _ hd => ⟨hd, hd.reserves, hd.canListen⟩, ?_⟩
  intro pre s cmds allocs hpre hid
  have hok := hinv pre ((List.prefix_append _ _).trans hpre)
  have hallowed := h pre _ hpre
  rw [Trace.run_concat]
  have hd : ({ Trace.run (WifiDesc.step (depth + 1)) wifiInit pre with
      cmds := cmds, allocs := allocs } : WifiDesc).ServerOk := hok.congr rfl fun _ => id
  exact (hd.close depth hallowed).2 hid

/-- A bound socket listens after a first try without memory, and takes a connection. -/
theorem wifi_server_listen :
    Trace.Always (WifiDesc.step 1)
      (fun desc => desc.ServerOk ∧ desc.Reserves ∧ desc.CanListen) wifiInit
      [.call (.open 16) [] [], .call (.bind 0) [] [],
        .call (.listen 0 2) [] [{ buff := false }], .call (.listen 0 2) [] [],
        .interrupt (.new 3), .call (.accept 0) [] [], .interrupt (.closed 3)] :=
  (wifi_server 0 _ (by decide)).1

/-- A bound socket that is closed stays the server. -/
theorem wifi_server_closed :
    ¬(Trace.run (WifiDesc.step 1) wifiInit
      [.call (.open 16) [] [], .call (.bind 0) [] [], .call (.close 0) [] []]).ServerOk := by
  intro h
  exact absurd rfl (h.bound 0 rfl).1

end NoOS
