import NoOS.Lib.Ownership
import NoOS.Network.WifiConnMap

/-!
# The buffers of the sockets

A socket owns the buffer that `wifi_socket_open` gives it until it is closed. Only the
clients that `wifi_socket_listen` opens get a second buffer, over the pointer to the first.
-/

namespace NoOS
open LinkTable Ownership

/-- The buffer of a socket in use. -/
def WifiDesc.own (desc : WifiDesc) (s : SocketId) : Option CbRef :=
  if desc.state s = .unused then none else desc.cb s

structure WifiDesc.BuffersOk (desc : WifiDesc) : Prop where
  owner : ∀ a ∈ desc.heap.live, ∃! s, desc.state s ≠ .unused ∧ desc.cb s = some a
  inUse : ∀ s a, desc.state s ≠ .unused → desc.cb s = some a → a ∈ desc.heap.live
  freedOnce : desc.heap.invalidFree = false
  closed : (∀ s, desc.state s = .unused) → desc.heap.live = ∅

/-- `wifi_socket_listen` keeps no client that it opens: no socket is free, the first `cb_init`
fails, or the second does, before it has an address and for another socket than the bound
one, which has been closed. -/
def WifiDesc.ListsNone (desc : WifiDesc) (s : SocketId) : Prop :=
  match desc.firstIn .unused with
  | none => True
  | some t => ¬desc.nextAlloc.Fits (desc.cbSize s) ∨
      (t ≠ s ∧ desc.cb s = none ∧ (desc.allocs.tail.headD {}).desc = false)

/-- Listening keeps no client, and the server is not connected when it is disconnected or
closed. -/
def WifiDesc.BufCallAllowed (desc : WifiDesc) : WifiCall → Prop
  | .listen s _ => desc.server.id = some s → desc.ListsNone s
  | .disconnect s | .close s => desc.server.id = some s → desc.state s ≠ .connected
  | .open _ | .connect _ | .send _ _ | .recv _ _ | .bind _ | .accept _ => True

def WifiDesc.BufAllowed (desc : WifiDesc) : WifiEvent → Prop
  | .call c cmds allocs => { desc with cmds := cmds, allocs := allocs }.BufCallAllowed c
  | .interrupt _ => True

instance WifiDesc.decidableListsNone (desc : WifiDesc) (s : SocketId) :
    Decidable (desc.ListsNone s) := by
  unfold WifiDesc.ListsNone
  split
  · exact inferInstance
  · exact inferInstance

instance WifiDesc.decidableBufCallAllowed (desc : WifiDesc) :
    (c : WifiCall) → Decidable (desc.BufCallAllowed c)
  | .listen _ _ => inferInstanceAs (Decidable (_ → _))
  | .disconnect _ => inferInstanceAs (Decidable (_ → _))
  | .close _ => inferInstanceAs (Decidable (_ → _))
  | .open _ | .connect _ | .send _ _ | .recv _ _ | .bind _ | .accept _ => .isTrue trivial

instance WifiDesc.decidableBufAllowed (desc : WifiDesc) :
    (e : WifiEvent) → Decidable (desc.BufAllowed e)
  | .call c cmds allocs =>
    inferInstanceAs (Decidable ({ desc with cmds := cmds, allocs := allocs }.BufCallAllowed c))
  | .interrupt _ => .isTrue trivial

/-- Without clients, sockets are unused, disconnected or connected, and only those in use are
in the connection table. -/
structure WifiDesc.BufInv (starting : Option SocketId) (desc : WifiDesc) : Prop where
  owns : Owns desc.heap.live desc.own
  fresh : ∀ a ∈ desc.heap.live, a < desc.heap.next
  freed : desc.heap.invalidFree = false
  clients : desc.server.clientIds = []
  quiet : ∀ s, desc.state s = .unused ∨ desc.state s = .disconnected ∨ desc.state s = .connected
  linked : Tracks desc.connIdToSockId (desc.link starting)
  started : ∀ s, starting = some s → desc.state s ≠ .unused

variable {p : Option SocketId} {d d' : WifiDesc} {s t : SocketId} {c : ConnId} {e : ConnEvent}

lemma WifiDesc.own_some {a : CbRef} : d.own s = some a ↔ d.state s ≠ .unused ∧ d.cb s = some a := by
  unfold own
  split
  · simp_all
  · simp_all

lemma WifiDesc.BufInv.ok (h : d.BufInv p) : d.BuffersOk where
  owner := by
    intro a ha
    obtain ⟨s, hs⟩ := h.owns.owner ha
    exact ⟨s, own_some.mp hs, fun t ht => h.owns.uniq (own_some.mpr ht) hs⟩
  inUse := fun s a hs ha => h.owns.live_of_own (own_some.mpr ⟨hs, ha⟩)
  freedOnce := h.freed
  closed := fun hs => h.owns.eq_empty fun s => by simp [own, hs s]

lemma WifiDesc.BufInv.frame (h : d.BufInv p) (cbSize : SocketId → UInt32) (cmds : List AtCmd)
    (allocs : List CbAlloc) :
    { d with cbSize := cbSize, cmds := cmds, allocs := allocs }.BufInv p :=
  ⟨h.owns, h.fresh, h.freed, h.clients, h.quiet, h.linked, h.started⟩

lemma WifiDesc.BufInv.congr {q : Option SocketId} (h : d.BufInv p)
    (hcb : d'.cb = d.cb) (hheap : d'.heap = d.heap)
    (hclients : d'.server.clientIds = d.server.clientIds)
    (hused : ∀ s, d'.state s = .unused ↔ d.state s = .unused)
    (hquiet : ∀ s, d'.state s = d.state s ∨ d'.state s = .disconnected ∨ d'.state s = .connected)
    (hlinked : Tracks d'.connIdToSockId (d'.link q))
    (hstarted : ∀ s, q = some s → d.state s ≠ .unused) : d'.BufInv q := by
  have hown : d'.own = d.own := by
    funext s
    simp [own, hcb, hused s]
  refine ⟨?_, ?_, ?_, ?_, ?_, hlinked, ?_⟩
  · rw [hheap, hown]
    exact h.owns
  · rw [hheap]
    exact h.fresh
  · rw [hheap]
    exact h.freed
  · rw [hclients]
    exact h.clients
  · intro s
    rcases hquiet s with hs | hs
    · rw [hs]
      exact h.quiet s
    · exact .inr hs
  · intro s hs hc
    exact hstarted s hs ((hused s).mp hc)

lemma WifiDesc.BufInv.endConn (h : d.BufInv p) (hused : d.state s ≠ .unused)
    (hs : ((d.state s).InConn ∨ p = some s) ∨ d.connId s = none) :
    ((wifiReleaseConn d s).setState s .disconnected).BufInv p := by
  obtain ⟨connId, map, heq⟩ := wifiReleaseConn_frame d s
  have hstate : ((wifiReleaseConn d s).setState s .disconnected).state =
      Function.update d.state s .disconnected := by
    rw [heq]
    rfl
  refine h.congr ?_ ?_ ?_ ?_ ?_ ?_ h.started
  · rw [heq]
    rfl
  · rw [heq]
    rfl
  · rw [heq]
    rfl
  · intro t
    rw [hstate]
    by_cases hts : t = s
    · simp [hts, hused]
    · simp [hts]
  · intro t
    rw [hstate]
    by_cases hts : t = s
    · simp [hts]
    · simp [hts]
  · rcases endConn_links hs with ⟨hmap, hlink⟩ | ⟨c, hc, hmap, hlink⟩
    · rw [hmap, hlink]
      exact h.linked
    · rw [hmap, hlink]
      exact h.linked.unlink hc

lemma WifiDesc.BufInv.interrupt (h : d.BufInv p) (e : ConnEvent) : (d.interrupt e).BufInv p := by
  rcases d.interrupt_cases e with heq | ⟨c, s, rfl, hc, hs⟩ | ⟨c, s, rfl, hc⟩
  · rw [heq]
    exact h
  · have hmem := (initializedClient_some hs).1
    simp [h.clients] at hmem
  · obtain ⟨hs, hid⟩ := link_some (h.linked c s hc)
    have heq : wifiReleaseConn (d.setState s .disconnected) s =
        (wifiReleaseConn d s).setState s .disconnected := by
      simp [wifiReleaseConn, hid]
    have hused : d.state s ≠ .unused := by
      rcases hs with (hs | hs) | hs
      · simp [hs]
      · simp [hs]
      · exact h.started s hs
    rw [interrupt_closed hc, heq]
    exact h.endConn hused (.inl hs)

lemma WifiDesc.BufInv.atRunCmd (h : d.BufInv p) : (atRunCmd d).2.BufInv p :=
  atRunCmd_induction (h.frame ..) fun _ e hd => hd.interrupt e

lemma WifiDesc.BufInv.stopConn (h : d.BufInv none) (hs : d.state s = .connected) :
    (d.stopConn s).BufInv none := by
  have hcmd : (NoOS.atRunCmd d).2.BufInv none ∧ (NoOS.atRunCmd d).2.state s ≠ .unused ∧
      (((NoOS.atRunCmd d).2.state s).InConn ∨ (NoOS.atRunCmd d).2.connId s = none) := by
    apply atRunCmd_induction (P := fun d => d.BufInv none ∧ d.state s ≠ .unused ∧
      ((d.state s).InConn ∨ d.connId s = none))
    · exact ⟨h.frame .., by simp [hs], .inl (.inl hs)⟩
    · rintro d e ⟨hd, hused, hconn⟩
      exact ⟨hd.interrupt e, interrupt_used hused e, interrupt_inConn hconn e⟩
  exact hcmd.1.endConn hcmd.2.1 (hcmd.2.2.imp .inl id)

lemma WifiDesc.BufInv.remove (h : d.BufInv none) (hs : d.state s = .disconnected) :
    (wifiSocketRemove d s).BufInv none := by
  have hmem : s ∉ d.server.clientIds := by simp [h.clients]
  have hown : d.own s = d.cb s := by simp [own, hs]
  rw [wifiSocketRemove_own hmem]
  have hquiet : ∀ t, Function.update d.state s .unused t = .unused ∨
      Function.update d.state s .unused t = .disconnected ∨
      Function.update d.state s .unused t = .connected := by
    intro t
    by_cases hts : t = s
    · simp [hts]
    · simpa [hts] using h.quiet t
  have hlink : ∀ heap, WifiDesc.link { d with
      cb := Function.update d.cb s none, heap := heap,
      state := Function.update d.state s .unused } none = d.link none := by
    intro heap
    apply link_congr (s := s)
    · exact link_of_idle (by rw [hs]; decide) (by simp)
    · exact link_of_idle (by simp [SocketState.InConn]) (by simp)
    · intro t ht
      simp [ht]
  have hnew : ∀ heap, WifiDesc.own { d with
      cb := Function.update d.cb s none, heap := heap,
      state := Function.update d.state s .unused } = Function.update d.own s none := by
    intro heap
    funext t
    by_cases hts : t = s
    · simp [own, hts]
    · simp [own, hts]
  cases hcb : d.cb s with
  | none =>
    have hold : Function.update d.own s none = d.own := by
      rw [← hcb, ← hown, Function.update_eq_self]
    refine ⟨?_, h.fresh, h.freed, h.clients, hquiet, ?_, by simp⟩
    · rw [hcb] at hown
      have howns := h.owns
      rw [← hold, ← hnew d.heap] at howns
      exact howns
    · have hlinked := h.linked
      rw [← hlink d.heap] at hlinked
      exact hlinked
  | some a =>
    have hlive : a ∈ d.heap.live := h.owns.live_of_own (hown.trans hcb)
    have heq : d.cbRemove (some a) =
        { d with heap := { d.heap with live := d.heap.live.erase a } } := by
      simp [cbRemove, hlive]
    rw [heq]
    refine ⟨?_, fun b hb => h.fresh b (Finset.mem_of_mem_erase hb), h.freed, h.clients, hquiet, ?_,
      by simp⟩
    · have howns := h.owns.release (hown.trans hcb)
      rw [← hnew { d.heap with live := d.heap.live.erase a }] at howns
      exact howns
    · have hlinked := h.linked
      rw [← hlink { d.heap with live := d.heap.live.erase a }] at hlinked
      exact hlinked

lemma WifiDesc.BufInv.disconnect (h : d.BufInv none)
    (hs : d.server.id = some s → d.state s ≠ .connected)
    (close : WifiDesc → SocketId → Int × WifiDesc) :
    (wifiSocketDisconnect close d s).2.BufInv none := by
  rcases h.quiet s with hst | hst | hst
  · simpa [wifiSocketDisconnect, hst] using h
  · rw [wifiSocketDisconnect_disconnected hst]
    exact h
  · rw [wifiSocketDisconnect_conn (by simp [hst]) (by simp [hst]) fun hid => hs hid hst]
    exact h.stopConn hst

lemma WifiDesc.BufInv.close (h : d.BufInv none) (depth : ℕ)
    (hs : d.server.id = some s → d.state s ≠ .connected) :
    (wifiSocketClose (depth + 1) d s).2.BufInv none := by
  rcases h.quiet s with hst | hst | hst
  · rw [wifiSocketClose_unused hst]
    exact h
  · rw [wifiSocketClose_used (by simp [hst]), wifiSocketDisconnect_disconnected hst]
    exact h.remove hst
  · have hid : d.server.id ≠ some s := fun hid => hs hid hst
    rw [wifiSocketClose_used (by simp [hst]),
      wifiSocketDisconnect_conn (by simp [hst]) (by simp [hst]) hid]
    exact (h.stopConn hst).remove (d.stopConn_state s)

lemma WifiDesc.BufInv.opened (h : d.BufInv none) (hun : d.state t = .unused)
    (cbSize : SocketId → UInt32) (allocs : List CbAlloc) :
    { d with
      state := Function.update d.state t .disconnected
      cb := Function.update d.cb t (some d.heap.next)
      cbSize := cbSize
      heap := { d.heap with
        next := d.heap.next + 1
        live := insert d.heap.next d.heap.live }
      allocs := allocs }.BufInv none := by
  have hnew : d.heap.next ∉ d.heap.live := fun hc => Nat.lt_irrefl _ (h.fresh _ hc)
  refine ⟨?_, ?_, h.freed, h.clients, ?_, ?_, by simp⟩
  · have howns := h.owns.acquire (i := t) (by simp [own, hun]) hnew
    convert howns using 1
    funext u
    by_cases hut : u = t
    · simp [own, hut]
    · simp [own, hut]
  · intro a ha
    rcases Finset.mem_insert.mp ha with rfl | ha
    · exact Nat.lt_succ_self _
    · exact Nat.lt_succ_of_lt (h.fresh a ha)
  · intro u
    by_cases hut : u = t
    · simp [hut]
    · simpa [hut] using h.quiet u
  · have hlinked := h.linked
    have hsame : (d.setState t .disconnected).link none = d.link none :=
      link_congr (s := t) (link_of_idle (by rw [hun]; decide) (by simp))
        (link_of_idle (by simp [SocketState.InConn]) (by simp)) (fun u hu => by simp [hu])
    rw [← hsame] at hlinked
    exact hlinked

/-- A failed `cb_init` that leaves the sockets in use as they are. -/
lemma WifiDesc.BufInv.lostAlloc (h : d.BufInv none) {cb : SocketId → Option CbRef}
    {next : CbRef} (hnext : d.heap.next ≤ next) (hcb : ∀ u, d.state u ≠ .unused → cb u = d.cb u)
    (allocs : List CbAlloc) :
    { d with cb := cb, heap := { d.heap with next := next }, allocs := allocs }.BufInv none := by
  refine ⟨?_, fun a ha => (h.fresh a ha).trans_le hnext, h.freed, h.clients, h.quiet, h.linked,
    by simp⟩
  convert h.owns using 1
  funext u
  by_cases hun : d.state u = .unused
  · simp [own, hun]
  · simp [own, hun, hcb u hun]

lemma WifiDesc.BufInv.open (h : d.BufInv none) (n : UInt32) :
    (wifiSocketOpen d n).2.BufInv none := by
  cases hfree : d.firstIn .unused with
  | none =>
    rw [wifiSocketOpen_none hfree]
    exact h
  | some t =>
    have hun := firstIn_some hfree
    by_cases hmem : d.nextAlloc.Fits n
    · rw [wifiSocketOpen_ok hfree hmem]
      exact h.opened hun ..
    · obtain ⟨ret, cb, next, -, hopen, hnext, hcb⟩ := wifiSocketOpen_error hfree hmem
      rw [hopen]
      exact h.lostAlloc hnext (fun u hu => hcb u fun hc => hu (hc ▸ hun)) _

lemma WifiDesc.BufInv.connect (h : d.BufInv none) : (wifiSocketConnect d s).2.BufInv none := by
  unfold wifiSocketConnect
  by_cases hid : d.server.id = some s
  · simpa [hid] using h
  rcases h.quiet s with hst | hst | hst
  · simpa [hid, hst] using h
  · simp only [hid, hst, if_false, isErrValueU32_eq, Bool.false_eq_true, reduceCtorEq]
    have hidle : d.link none s = none := link_of_idle (by rw [hst]; decide) (by simp)
    have hother : ∀ d' : WifiDesc, (∀ t, t ≠ s → d'.state t = d.state t ∧ d'.connId t = d.connId t) →
        ∀ t, t ≠ s → d'.link (some s) t = d.link none t := by
      intro d' hd' t hts
      simp [link, hd' t hts, hts.symm]
    -- with all connection ids in use the socket keeps the id that it has
    have hstart : (wifiGetUnusedConn d s).2.BufInv (some s) := by
      unfold wifiGetUnusedConn
      split
      · rename_i c hc
        refine h.congr rfl rfl rfl (fun _ => Iff.rfl) (fun _ => .inl rfl) ?_
          fun t ht => Option.some_inj.mp ht ▸ (by simp [hst])
        have hlink := h.linked.link (a := c) hidle
        convert hlink using 1
        funext t
        by_cases hts : t = s
        · simp [link, hts]
        · rw [Function.update_of_ne hts]
          exact hother _ (fun u hu => by simp [hu]) t hts
      · refine h.congr rfl rfl rfl (fun _ => Iff.rfl) (fun _ => .inl rfl) ?_
          fun t ht => Option.some_inj.mp ht ▸ (by simp [hst])
        intro c t hct
        have ht := h.linked c t hct
        have hts : t ≠ s := by
          rintro rfl
          simp [hidle] at ht
        rwa [hother d (fun _ _ => ⟨rfl, rfl⟩) t hts]
    have hcmd := hstart.atRunCmd
    refine hcmd.congr rfl rfl rfl ?_ ?_ ?_ (by simp)
    · intro t
      by_cases hts : t = s
      · simp [hts, hcmd.started s rfl]
      · simp [hts]
    · intro t
      by_cases hts : t = s
      · simp [hts]
      · simp [hts]
    · rw [link_connected]
      exact hcmd.linked
  · simpa [hid, hst] using h

lemma WifiDesc.BufInv.listen (h : d.BufInv none) (depth : ℕ) (n : UInt32)
    (hs : d.server.id = some s → d.ListsNone s) :
    (wifiSocketListen (depth + 1) d s n).2.BufInv none := by
  unfold wifiSocketListen
  by_cases hid : d.server.id = some s
  · rw [if_neg (fun hne => hne hid)]
    have hnil : { d with server := { d.server with clientIds := [] } } = d := by
      rw [← h.clients]
    have hnone := hs hid
    -- there are no clients to remove
    have hback : ∀ d' : WifiDesc, d'.BufInv none →
        removeServerBackLog (wifiSocketClose (depth + 1)) d' = d' := by
      intro d' hd'
      simp [removeServerBackLog, hd'.clients]
    obtain ⟨m, hm⟩ := Nat.exists_eq_succ_of_ne_zero (nbClients_pos n).ne'
    have hloop : isErrValue (listenLoop (depth + 1) s (nbClients n) d).1 = true ∧
        (listenLoop (depth + 1) s (nbClients n) d).2.BufInv none := by
      rw [hm]
      unfold ListsNone at hnone
      cases hfree : d.firstIn .unused with
      | none =>
        rw [listenLoop_stop (wifiSocketOpen_none hfree)]
        exact ⟨rfl, h⟩
      | some t =>
        have hun := firstIn_some hfree
        rw [hfree] at hnone
        by_cases hmem : d.nextAlloc.Fits (d.cbSize s)
        · obtain ⟨hts, hcb, halloc⟩ := hnone.resolve_left (not_not_intro hmem)
          have hopened := h.opened hun (Function.update d.cbSize t (d.cbSize s)) d.allocs.tail
          have hopen := wifiSocketOpen_ok hfree hmem
          generalize hd' : ({ d with
            state := Function.update d.state t .disconnected
            cb := Function.update d.cb t (some d.heap.next)
            cbSize := Function.update d.cbSize t (d.cbSize s)
            heap := { d.heap with
              next := d.heap.next + 1
              live := insert d.heap.next d.heap.live }
            allocs := d.allocs.tail } : WifiDesc) = d' at hopen hopened
          have hcb' : d'.cb s = none := by
            rw [← hd']
            simpa [hts.symm] using hcb
          have hsize : d'.cbSize s = d.cbSize s := by
            rw [← hd']
            simp [hts.symm]
          have hdis : d'.state t = .disconnected := by
            rw [← hd']
            simp
          have halloc' : d'.nextAlloc.desc = false := by
            rw [← hd']
            exact halloc
          -- the second `cb_init` leaves the buffer of the first one
          have hfail : ¬d'.nextAlloc.Fits (d'.cbSize s) := by
            rintro ⟨-, hd, -⟩
            simp [halloc'] at hd
          obtain ⟨ret, cb, next, hret, hinit, hnext, -, hsame⟩ :=
            cbInit_error t hfail
          have hkeep := hsame (by rw [hsize]; exact hmem.1) halloc'
          rw [listenLoop_init hopen (by simp [hcb']) hinit, if_pos hret]
          refine ⟨hret, ?_⟩
          have hlost := hopened.lostAlloc hnext (fun u _ => congrFun hkeep u) d'.allocs.tail
          exact hlost.close depth fun _ hc => by simp [hdis] at hc
        · obtain ⟨ret, cb, next, hret, hopen, hnext, hcb⟩ := wifiSocketOpen_error hfree hmem
          rw [listenLoop_stop hopen]
          exact ⟨hret, h.lostAlloc hnext (fun u hu => hcb u fun hc => hu (hc ▸ hun)) _⟩
    rw [hnil]
    dsimp only
    rw [if_pos hloop.1, hback _ hloop.2]
    exact hloop.2
  · rw [if_pos hid]
    exact h

lemma WifiDesc.BufInv.accept (h : d.BufInv none) : (wifiSocketAccept d s).2.BufInv none := by
  unfold wifiSocketAccept
  have hlis : d.state s ≠ .listening := by
    rcases h.quiet s with hst | hst | hst
    · simp [hst]
    · simp [hst]
    · simp [hst]
  by_cases hid : d.server.id = some s
  · simpa [hid, hlis] using h
  · simpa [hid] using h

lemma WifiDesc.BufInv.bind (h : d.BufInv none) : (wifiSocketBind d s).2.BufInv none := by
  unfold wifiSocketBind
  split
  · exact h
  · split
    · exact h
    · exact ⟨h.owns, h.fresh, h.freed, h.clients, h.quiet, h.linked, h.started⟩

lemma WifiDesc.BufInv.send (h : d.BufInv none) (size : UInt32) :
    (wifiSocketSend d s size).2.BufInv none := by
  unfold wifiSocketSend
  split
  · exact h
  · split
    · exact h
    · exact sendLoop_induction h fun d hd => hd.atRunCmd

/-- Every allowed event keeps the buffers with their owners. -/
theorem WifiDesc.BufInv.step (h : d.BufInv none) (depth : ℕ) {e : WifiEvent}
    (he : d.BufAllowed e) : (d.step (depth + 1) e).BufInv none := by
  cases e with
  | interrupt e => exact h.interrupt e
  | call c cmds allocs =>
    have hd : { d with cmds := cmds, allocs := allocs }.BufInv none := h.frame ..
    cases c with
    | «open» n => exact hd.open n
    | close s => exact hd.close depth he
    | connect s => exact hd.connect
    | disconnect s => exact hd.disconnect he _
    | send s size => exact hd.send size
    | recv s size => exact hd
    | bind s => exact hd.bind
    | listen s n => exact hd.listen depth n he
    | accept s => exact hd.accept

lemma wifiInit_bufInv : wifiInit.BufInv none := by
  refine ⟨Owns.empty, ?_, rfl, rfl, fun _ => .inl rfl, ?_, by simp⟩
  · intro a ha
    cases ha
  · intro c s hc
    cases hc

theorem wifi_buffers (depth : ℕ) (es : List WifiEvent)
    (h : Trace.Guarded (WifiDesc.step (depth + 1)) WifiDesc.BufAllowed wifiInit es) :
    Trace.Always (WifiDesc.step (depth + 1)) WifiDesc.BuffersOk wifiInit es := by
  have hinv := h.always wifiInit_bufInv fun _ _ hd he => hd.step depth he
  exact hinv.mono fun _ hd => hd.ok

/-- A bound socket that fails to listen for want of memory, and another one connected. -/
theorem wifi_buffers_bound :
    Trace.Always (WifiDesc.step 1) WifiDesc.BuffersOk wifiInit
      [.call (.open 16) [] [], .call (.bind 0) [] [],
        .call (.listen 0 1) [] [{ desc := false }], .call (.open 16) [] [],
        .call (.connect 1) [] [], .interrupt (.closed 0), .call (.close 1) [] [],
        .call (.close 0) [] []] :=
  wifi_buffers 0 _ (by decide)

/-- The client that is opened first loses its own buffer for the one of the server. -/
theorem wifi_buffers_listen :
    ¬(Trace.run (WifiDesc.step 1) wifiInit
      [.call (.open 16) [] [], .call (.bind 0) [] [], .call (.listen 0 1) [] []]).BuffersOk := by
  intro h
  obtain ⟨s, hs, -⟩ := h.owner 1 (by decide)
  revert s
  decide

end NoOS
