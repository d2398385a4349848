import NoOS.Network.Wifi

/-!
# What the wifi functions do

Each lemma says once what a function can do to the descriptor. The invariants of the later
modules are derived from them.
-/

namespace NoOS

variable {desc : WifiDesc} {s t id : SocketId} {c : ConnId} {n : UInt32}

lemma WifiDesc.firstIn_some {state : SocketState} (h : desc.firstIn state = some s) :
    desc.state s = state := by
  simpa using List.find?_some h

lemma WifiDesc.firstIn_none {state : SocketState} (h : desc.firstIn state = none) (s : SocketId) :
    desc.state s ≠ state := by
  simpa using List.find?_eq_none.mp h s (List.mem_finRange s)

lemma WifiDesc.initializedClient_some (h : desc.initializedClient = some s) :
    s ∈ desc.server.clientIds ∧ desc.state s = .disconnected :=
  ⟨List.mem_of_find?_eq_some h, by simpa using List.find?_some h⟩

lemma WifiDesc.interrupt_new (hc : desc.connIdToSockId c = none)
    (hs : desc.initializedClient = some s) :
    desc.interrupt (.new c) = { desc with
      connIdToSockId := Function.update desc.connIdToSockId c (some s)
      connId := Function.update desc.connId s (some c)
      state := Function.update desc.state s .waitingAccept } := by
  simp [interrupt, wifiConnectionCallback, getInitializedClientId, hc, hs]

lemma WifiDesc.interrupt_closed (hc : desc.connIdToSockId c = some s) :
    desc.interrupt (.closed c) = wifiReleaseConn (desc.setState s .disconnected) s := by
  simp [interrupt, wifiConnectionCallback, hc]

/-- A connection event gives a connection to a client, releases a connection, or does
nothing. -/
lemma WifiDesc.interrupt_cases (desc : WifiDesc) (e : ConnEvent) :
    desc.interrupt e = desc ∨
      (∃ c s, e = .new c ∧ desc.connIdToSockId c = none ∧ desc.initializedClient = some s) ∨
      (∃ c s, e = .closed c ∧ desc.connIdToSockId c = some s) := by
  cases e with
  | new c =>
    cases hc : desc.connIdToSockId c with
    | some s => exact .inl (by simp [interrupt, wifiConnectionCallback, hc])
    | none =>
      cases hs : desc.initializedClient with
      | some s => exact .inr (.inl ⟨c, s, rfl, hc, rfl⟩)
      | none =>
        exact .inl (by simp [interrupt, wifiConnectionCallback, getInitializedClientId, hc, hs])
  | closed c =>
    cases hc : desc.connIdToSockId c with
    | some s => exact .inr (.inr ⟨c, s, rfl, hc⟩)
    | none => exact .inl (by simp [interrupt, wifiConnectionCallback, hc])

lemma wifiReleaseConn_frame (desc : WifiDesc) (s : SocketId) :
    ∃ connId map, wifiReleaseConn desc s =
      { desc with connId := connId, connIdToSockId := map } := by
  unfold wifiReleaseConn
  split
  · exact ⟨desc.connId, desc.connIdToSockId, rfl⟩
  · exact ⟨_, _, rfl⟩

lemma WifiDesc.interrupt_frame (desc : WifiDesc) (e : ConnEvent) :
    ∃ connId state map, desc.interrupt e =
      { desc with connId := connId, state := state, connIdToSockId := map } := by
  rcases desc.interrupt_cases e with heq | ⟨c, s, rfl, hc, hs⟩ | ⟨c, s, rfl, hc⟩
  · exact ⟨desc.connId, desc.state, desc.connIdToSockId, heq⟩
  · exact ⟨_, _, _, interrupt_new hc hs⟩
  · obtain ⟨connId, map, heq⟩ := wifiReleaseConn_frame (desc.setState s .disconnected) s
    exact ⟨connId, _, map, (interrupt_closed hc).trans heq⟩

lemma WifiDesc.interrupt_used (h : desc.state s ≠ .unused) (e : ConnEvent) :
    (desc.interrupt e).state s ≠ .unused := by
  rcases desc.interrupt_cases e with heq | ⟨c, t, rfl, hc, ht⟩ | ⟨c, t, rfl, hc⟩
  · rwa [heq]
  · rw [interrupt_new hc ht]
    by_cases hst : s = t
    · simp [hst]
    · simpa [hst] using h
  · obtain ⟨_, _, hrel⟩ := wifiReleaseConn_frame (desc.setState t .disconnected) t
    rw [interrupt_closed hc, hrel]
    by_cases hst : s = t
    · simp [hst]
    · simpa [hst] using h

lemma WifiDesc.interrupt_cmds (desc : WifiDesc) (cmds : List AtCmd) (allocs : List CbAlloc)
    (e : ConnEvent) : { desc with cmds := cmds, allocs := allocs }.interrupt e =
      { desc.interrupt e with cmds := cmds, allocs := allocs } := by
  have hclient : { desc with cmds := cmds, allocs := allocs }.initializedClient =
      desc.initializedClient := rfl
  cases e with
  | new c =>
    cases hc : desc.connIdToSockId c with
    | some s => simp [interrupt, wifiConnectionCallback, hc]
    | none =>
      cases hs : desc.initializedClient with
      | some s =>
        rw [interrupt_new hc hs]
        exact interrupt_new hc hs
      | none => simp [interrupt, wifiConnectionCallback, getInitializedClientId, hc, hs, hclient]
  | closed c =>
    cases hc : desc.connIdToSockId c with
    | none => simp [interrupt, wifiConnectionCallback, hc]
    | some s =>
      cases hid : desc.connId s with
      | none => simp [interrupt, wifiConnectionCallback, wifiReleaseConn, hc, hid]
      | some c' => simp [interrupt, wifiConnectionCallback, wifiReleaseConn, hc, hid]

lemma atRunCmd_induction {P : WifiDesc → Prop} (h : P { desc with cmds := desc.cmds.tail })
    (hint : ∀ desc e, P desc → P (desc.interrupt e)) : P (atRunCmd desc).2 :=
  Trace.run_induction h hint

lemma atRunCmd_frame (desc : WifiDesc) :
    ∃ connId state map, (atRunCmd desc).2 = { desc with
      connId := connId, state := state, connIdToSockId := map, cmds := desc.cmds.tail } := by
  apply atRunCmd_induction (P := fun d => ∃ connId state map, d = { desc with
    connId := connId, state := state, connIdToSockId := map, cmds := desc.cmds.tail })
  · exact ⟨desc.connId, desc.state, desc.connIdToSockId, rfl⟩
  · rintro d e ⟨connId, state, map, rfl⟩
    obtain ⟨connId', state', map', heq⟩ := WifiDesc.interrupt_frame _ e
    exact ⟨connId', state', map', heq⟩

lemma sendLoop_induction {P : WifiDesc → Prop} {size i : UInt32} (h : P desc)
    (hcmd : ∀ desc, P desc → P (atRunCmd desc).2) : P (sendLoop desc size i).2 := by
  fun_induction sendLoop desc size i with
  | case1 desc i ret desc' hrun herr => simp at herr
  | case2 desc i toSend ret desc' hrun herr hlt ih =>
    have hcmd' := hcmd desc h
    rw [hrun] at hcmd'
    exact ih hcmd'
  | case3 desc i toSend ret desc' hrun herr hlt =>
    have hcmd' := hcmd desc h
    rwa [hrun] at hcmd'

/-- `cb_init` with this size succeeds. -/
def CbAlloc.Fits (mem : CbAlloc) (size : UInt32) : Prop :=
  size ≠ 0 ∧ mem.desc = true ∧ mem.buff = true

instance (mem : CbAlloc) (size : UInt32) : Decidable (mem.Fits size) :=
  inferInstanceAs (Decidable (_ ∧ _))

lemma WifiDesc.cbInit_ok (id : SocketId) (h : desc.nextAlloc.Fits n) :
    desc.cbInit id n = (SUCCESS, { desc with
      cb := Function.update desc.cb id (some desc.heap.next)
      heap := { desc.heap with
        next := desc.heap.next + 1
        live := insert desc.heap.next desc.heap.live }
      allocs := desc.allocs.tail }) := by
  obtain ⟨hn, hd, hb⟩ := h
  simp [cbInit, NoOS.cbInit, hn, hd, hb]

/-- A failing `cb_init` may leave a new address that is not live. -/
lemma WifiDesc.cbInit_error (id : SocketId) (h : ¬desc.nextAlloc.Fits n) :
    ∃ ret cb next, isErrValue ret = true ∧
      desc.cbInit id n = (ret, { desc with
        cb := cb, heap := { desc.heap with next := next }, allocs := desc.allocs.tail }) ∧
      desc.heap.next ≤ next ∧ (∀ t, t ≠ id → cb t = desc.cb t) ∧
      (n ≠ 0 → desc.nextAlloc.desc = false → cb = desc.cb) := by
  by_cases hn : n = 0
  · exact ⟨-EINVAL, desc.cb, desc.heap.next, by decide, by simp [cbInit, NoOS.cbInit, hn], le_rfl,
      fun _ _ => rfl, fun _ _ => rfl⟩
  · cases hd : desc.nextAlloc.desc with
    | false =>
      refine ⟨-ENOMEM, desc.cb, desc.heap.next, by decide, ?_, le_rfl, fun _ _ => rfl,
        fun _ _ => rfl⟩
      simp [cbInit, NoOS.cbInit, hn, hd]
    | true =>
      have hb : desc.nextAlloc.buff = false := by
        rw [← Bool.not_eq_true]
        exact fun hb => h ⟨hn, hd, hb⟩
      refine ⟨-ENOMEM, Function.update desc.cb id (some desc.heap.next), desc.heap.next + 1,
        by decide, ?_, Nat.le_succ _, fun t ht => Function.update_of_ne ht _ _, by simp⟩
      simp [cbInit, NoOS.cbInit, hn, hd, hb]

lemma WifiDesc.cbInit_frame (desc : WifiDesc) (id : SocketId) (n : UInt32) :
    ∃ cb heap, (desc.cbInit id n).2 =
      { desc with cb := cb, heap := heap, allocs := desc.allocs.tail } := by
  by_cases h : desc.nextAlloc.Fits n
  · exact ⟨_, _, congrArg Prod.snd (cbInit_ok id h)⟩
  · obtain ⟨_, cb, _, _, heq, _⟩ := cbInit_error id h
    exact ⟨cb, _, congrArg Prod.snd heq⟩

lemma WifiDesc.cbRemove_frame (desc : WifiDesc) (cb : Option CbRef) :
    ∃ heap, desc.cbRemove cb = { desc with heap := heap } := by
  unfold cbRemove
  split
  · exact ⟨desc.heap, rfl⟩
  · split
    · exact ⟨_, rfl⟩
    · exact ⟨_, rfl⟩

lemma wifiSocketOpen_none (h : desc.firstIn .unused = none) :
    wifiSocketOpen desc n = (.error (-EMLINK), desc) := by
  simp [wifiSocketOpen, wifiGetUnusedSocket, h]

lemma wifiSocketOpen_ok (h : desc.firstIn .unused = some id) (hmem : desc.nextAlloc.Fits n) :
    wifiSocketOpen desc n = (.ok id, { desc with
      state := Function.update desc.state id .disconnected
      cb := Function.update desc.cb id (some desc.heap.next)
      cbSize := Function.update desc.cbSize id n
      heap := { desc.heap with
        next := desc.heap.next + 1
        live := insert desc.heap.next desc.heap.live }
      allocs := desc.allocs.tail }) := by
  have hmem' : (desc.setState id .disconnected).nextAlloc.Fits n := hmem
  have hcb := WifiDesc.cbInit_ok id hmem'
  simp only [wifiSocketOpen, wifiGetUnusedSocket, h, hcb]
  rfl

lemma wifiSocketOpen_error (h : desc.firstIn .unused = some id) (hmem : ¬desc.nextAlloc.Fits n) :
    ∃ ret cb next, isErrValue ret = true ∧
      wifiSocketOpen desc n = (.error ret, { desc with
        cb := cb, heap := { desc.heap with next := next }, allocs := desc.allocs.tail }) ∧
      desc.heap.next ≤ next ∧ ∀ t, t ≠ id → cb t = desc.cb t := by
  have hid := WifiDesc.firstIn_some h
  have hmem' : ¬(desc.setState id .disconnected).nextAlloc.Fits n := hmem
  obtain ⟨ret, cb, next, hret, hcb, hnext, hoff, -⟩ := WifiDesc.cbInit_error id hmem'
  refine ⟨ret, cb, next, hret, ?_, hnext, hoff⟩
  -- the state of the socket goes back to what it was
  have hstate : Function.update desc.state id .unused = desc.state := by
    rw [← hid, Function.update_eq_self]
  simp only [wifiSocketOpen, wifiGetUnusedSocket, h, hcb, hret, wifiReleaseSocket]
  simp [hstate]

/-- The state in which `wifi_socket_disconnect` leaves a socket that is not the server. -/
def WifiDesc.stopConn (desc : WifiDesc) (id : SocketId) : WifiDesc :=
  (wifiReleaseConn (atRunCmd desc).2 id).setState id .disconnected

lemma WifiDesc.stopConn_state (desc : WifiDesc) (id : SocketId) :
    (desc.stopConn id).state id = .disconnected := by
  simp [stopConn]

lemma WifiDesc.stopConn_frame (desc : WifiDesc) (id : SocketId) :
    ∃ connId state map, desc.stopConn id = { desc with
      connId := connId, state := state, connIdToSockId := map, cmds := desc.cmds.tail } := by
  obtain ⟨_, state, _, heq⟩ := atRunCmd_frame desc
  obtain ⟨connId, map, hrel⟩ := wifiReleaseConn_frame (atRunCmd desc).2 id
  unfold stopConn
  rw [hrel, heq]
  exact ⟨connId, _, map, rfl⟩

lemma wifiSocketDisconnect_disconnected {close : WifiDesc → SocketId → Int × WifiDesc}
    (h : desc.state id = .disconnected) : wifiSocketDisconnect close desc id = (SUCCESS, desc) := by
  simp [wifiSocketDisconnect, h]

lemma wifiSocketDisconnect_conn {close : WifiDesc → SocketId → Int × WifiDesc}
    (hun : desc.state id ≠ .unused) (hdis : desc.state id ≠ .disconnected)
    (hid : desc.server.id ≠ some id) :
    wifiSocketDisconnect close desc id = (SUCCESS, desc.stopConn id) := by
  simp [wifiSocketDisconnect, WifiDesc.stopConn, hun, hdis, hid]

/-- The state in which `wifi_socket_disconnect` leaves the server. -/
def WifiDesc.stopServer (close : WifiDesc → SocketId → Int × WifiDesc) (desc : WifiDesc)
    (id : SocketId) : WifiDesc :=
  let desc := removeServerBackLog close (atRunCmd desc).2
  { desc with server := { desc.server with id := none } }.setState id .disconnected

lemma wifiSocketDisconnect_server {close : WifiDesc → SocketId → Int × WifiDesc}
    (hun : desc.state id ≠ .unused) (hdis : desc.state id ≠ .disconnected)
    (hid : desc.server.id = some id) :
    wifiSocketDisconnect close desc id = (SUCCESS, desc.stopServer close id) := by
  simp [wifiSocketDisconnect, WifiDesc.stopServer, hun, hdis, hid]

lemma wifiSocketClose_unused {depth : ℕ} (h : desc.state id = .unused) :
    wifiSocketClose (depth + 1) desc id = (SUCCESS, desc) := by
  simp [wifiSocketClose, h]

lemma wifiSocketClose_used {depth : ℕ} (h : desc.state id ≠ .unused) :
    wifiSocketClose (depth + 1) desc id =
      (SUCCESS, wifiSocketRemove
        (wifiSocketDisconnect (wifiSocketClose depth) desc id).2 id) := by
  have hret : isErrValue (wifiSocketDisconnect (wifiSocketClose depth) desc id).1 = false := by
    by_cases hdis : desc.state id = .disconnected
    · rw [wifiSocketDisconnect_disconnected hdis]
      rfl
    · by_cases hid : desc.server.id = some id
      · rw [wifiSocketDisconnect_server h hdis hid]
        rfl
      · rw [wifiSocketDisconnect_conn h hdis hid]
        rfl
  simp [wifiSocketClose, h, hret]

lemma removeServerBackLog_induction {close : WifiDesc → SocketId → Int × WifiDesc}
    {P : WifiDesc → Prop} (h : P desc)
    (hstep : ∀ d id, id ∈ desc.server.clientIds → P d → P (close (d.cbRemove (d.cb id)) id).2) :
    P (removeServerBackLog close desc) :=
  List.foldlRecOn _ _ h fun d hd id hid => hstep d id hid hd

lemma releaseClients_induction {P : WifiDesc → Prop} (h : P desc)
    (hstep : ∀ d id, id ∈ desc.server.clientIds → P d →
      P (wifiReleaseSocket (d.cbRemove (d.cb id)) id)) : P (releaseClients desc) :=
  List.foldlRecOn _ _ h fun d hd id hid => hstep d id hid hd

lemma wifiSocketRemove_own (h : id ∉ desc.server.clientIds) :
    wifiSocketRemove desc id =
      wifiReleaseSocket ((desc.cbRemove (desc.cb id)).setCb id none) id := by
  simp [wifiSocketRemove, isServerSocket, h]

lemma wifiSocketRemove_server (h : id ∈ desc.server.clientIds) (hid : desc.server.id = some id) :
    wifiSocketRemove desc id = wifiReleaseSocket (releaseClients desc) id := by
  simp [wifiSocketRemove, isServerSocket, h, hid]

lemma wifiSocketRemove_client (h : id ∈ desc.server.clientIds) (hid : desc.server.id ≠ some id) :
    wifiSocketRemove desc id = wifiReleaseSocket desc id := by
  simp [wifiSocketRemove, isServerSocket, h, hid]

lemma wifiSocketRemove_frame (hid : desc.server.id ≠ some id) :
    ∃ cb heap, wifiSocketRemove desc id =
      { desc with cb := cb, heap := heap, state := Function.update desc.state id .unused } := by
  by_cases h : id ∈ desc.server.clientIds
  · exact ⟨desc.cb, desc.heap, wifiSocketRemove_client h hid⟩
  · obtain ⟨heap, heq⟩ := desc.cbRemove_frame (desc.cb id)
    rw [wifiSocketRemove_own h, heq]
    exact ⟨_, heap, rfl⟩

lemma nbClients_pos (backLog : UInt32) : 0 < nbClients backLog := by
  unfold nbClients
  split
  · decide
  · rename_i h
    have hpos : backLog.toNat ≠ 0 := fun hc => h (UInt32.toNat_inj.mp hc)
    have hmax : 0 < MAX_CONNECTIONS := by decide
    lia

section ListenLoop

variable {desc' desc'' : WifiDesc} {ret : Int} {depth m : ℕ}

lemma listenLoop_stop (hopen : wifiSocketOpen desc (desc.cbSize s) = (.error ret, desc')) :
    listenLoop depth s (m + 1) desc = (ret, desc') := by
  simp [listenLoop, hopen]

lemma listenLoop_hand (hopen : wifiSocketOpen desc (desc.cbSize s) = (.ok t, desc'))
    (hcb : desc'.server.clientIds = [] ∧ desc'.cb s ≠ none) :
    listenLoop depth s (m + 1) desc =
      listenLoop depth s m (((desc'.setCb t (desc'.cb s)).setCb s none).addClient t) := by
  simp only [listenLoop, hopen, if_pos hcb]

lemma listenLoop_init (hopen : wifiSocketOpen desc (desc.cbSize s) = (.ok t, desc'))
    (hcb : ¬(desc'.server.clientIds = [] ∧ desc'.cb s ≠ none))
    (hinit : desc'.cbInit t (desc'.cbSize s) = (ret, desc'')) :
    listenLoop depth s (m + 1) desc =
      if isErrValue ret then (ret, (wifiSocketClose depth desc'' t).2)
      else listenLoop depth s m (desc''.addClient t) := by
  simp only [listenLoop, hopen, if_neg hcb, hinit]

end ListenLoop

end NoOS
