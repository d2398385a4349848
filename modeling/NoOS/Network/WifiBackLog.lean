import NoOS.Network.WifiConnMap

/-!
# The capacity of the server

Each client of a listening server is disconnected, or in a connection. A disconnected one
takes the next connection; one that is closed by the application does not come back.
-/

namespace NoOS
open LinkTable

/-- The clients that are connected or waiting. -/
def WifiDesc.nbActive (desc : WifiDesc) : ℕ :=
  desc.server.clientIds.countP fun t => decide (desc.state t).InConn

/-- A connection with a new id, or one that a client already has, gets a buffer as long as
fewer than `b` clients are active. -/
def WifiDesc.TakesConn (b : ℕ) (desc : WifiDesc) : Prop :=
  ∀ c, (∀ t, desc.connIdToSockId c = some t → t ∈ desc.server.clientIds) → desc.nbActive < b →
    (wifiConnectionCallback desc (.new c)).1 ≠ none

/-- Connections come and go and are accepted, and no client is closed by the application. -/
def WifiEvent.KeepsClients : WifiEvent → Prop
  | .interrupt _ => True
  | .call (.accept _) _ _ => True
  | .call _ _ _ => False

instance WifiEvent.decidableKeepsClients : DecidablePred WifiEvent.KeepsClients
  | .interrupt _ => .isTrue trivial
  | .call (.accept _) _ _ => .isTrue trivial
  | .call (.open _) _ _ | .call (.close _) _ _ | .call (.connect _) _ _
  | .call (.disconnect _) _ _ | .call (.send _ _) _ _ | .call (.recv _ _) _ _
  | .call (.bind _) _ _ | .call (.listen _ _) _ _ => .isFalse id

/-- Every client has a buffer, and is disconnected or in a connection that has an id. -/
structure WifiDesc.ClientsInv (b : ℕ) (desc : WifiDesc) : Prop where
  length : desc.server.clientIds.length = b
  nodup : desc.server.clientIds.Nodup
  buffer : ∀ t ∈ desc.server.clientIds, desc.cb t ≠ none
  state : ∀ t ∈ desc.server.clientIds, desc.state t = .disconnected ∨
    (desc.state t).InConn ∧ desc.connId t ≠ none

variable {d d' : WifiDesc} {s t : SocketId} {b : ℕ} {e : ConnEvent}

lemma WifiDesc.ClientsInv.congr (h : d.ClientsInv b) (hcb : d'.cb = d.cb)
    (hserver : d'.server = d.server)
    (hstate : ∀ t ∈ d.server.clientIds, d'.state t = .disconnected ∨
      (d'.state t).InConn ∧ d'.connId t ≠ none) : d'.ClientsInv b := by
  refine ⟨?_, ?_, ?_, ?_⟩
  · rw [hserver]
    exact h.length
  · rw [hserver]
    exact h.nodup
  · rw [hserver, hcb]
    exact h.buffer
  · rw [hserver]
    exact hstate

lemma WifiDesc.ClientsInv.interrupt (h : d.ClientsInv b) (e : ConnEvent) :
    (d.interrupt e).ClientsInv b := by
  obtain ⟨_, _, _, heq⟩ := d.interrupt_frame e
  refine h.congr (by rw [heq]) (by rw [heq]) ?_
  intro t ht
  rcases d.interrupt_cases e with heq | ⟨c, u, rfl, hc, hu⟩ | ⟨c, u, rfl, hc⟩
  · rw [heq]
    exact h.state t ht
  · rw [interrupt_new hc hu]
    by_cases htu : t = u
    · exact .inr (by simp [htu, SocketState.InConn])
    · simpa [htu] using h.state t ht
  · rw [interrupt_closed hc]
    by_cases htu : t = u
    · obtain ⟨_, _, hrel⟩ := wifiReleaseConn_frame (d.setState u .disconnected) u
      rw [hrel]
      exact .inl (by simp [htu])
    · unfold wifiReleaseConn
      split
      · simpa [htu] using h.state t ht
      · simpa [htu] using h.state t ht

lemma WifiDesc.ClientsInv.accept (h : d.ClientsInv b) : (wifiSocketAccept d s).2.ClientsInv b := by
  unfold wifiSocketAccept
  split
  · exact h
  · split
    · exact h
    · split
      · rename_i u hu
        have hwait := firstIn_some hu
        refine h.congr rfl rfl fun t ht => ?_
        by_cases htu : t = u
        · subst htu
          have hconn := (h.state t ht).resolve_left (by simp [hwait])
          exact .inr ⟨by simp [SocketState.InConn], hconn.2⟩
        · simpa [htu] using h.state t ht
      · exact h

lemma WifiDesc.ClientsInv.step (h : d.ClientsInv b) (depth : ℕ) {e : WifiEvent}
    (he : e.KeepsClients) : (d.step depth e).ClientsInv b := by
  cases e with
  | interrupt e => exact h.interrupt e
  | call c cmds allocs =>
    have hd : { d with cmds := cmds, allocs := allocs }.ClientsInv b := h.congr rfl rfl h.state
    cases c with
    | accept s => exact hd.accept
    | «open» | close | connect | disconnect | send | recv | bind | listen => cases he

/-- A successful loop leaves as many disconnected clients as it was asked for. -/
lemma listenLoop_clients {depth m k : ℕ} (hused : d.state s ≠ .unused)
    (hs : s ∉ d.server.clientIds) (h : d.ClientsInv k)
    (hdis : ∀ t ∈ d.server.clientIds, d.state t = .disconnected)
    (hret : isErrValue (listenLoop depth s m d).1 = false) :
    (listenLoop depth s m d).2.ClientsInv (k + m) ∧
      s ∉ (listenLoop depth s m d).2.server.clientIds := by
  induction m generalizing d k with
  | zero => exact ⟨h, hs⟩
  | succ m ih =>
    cases hfree : d.firstIn .unused with
    | none =>
      rw [listenLoop_stop (wifiSocketOpen_none hfree)] at hret
      cases hret
    | some t =>
      have hun := WifiDesc.firstIn_some hfree
      have hst : s ≠ t := by
        rintro rfl
        exact hused hun
      have hmem : t ∉ d.server.clientIds := by
        intro hc
        simp [hdis t hc] at hun
      by_cases hfits : d.nextAlloc.Fits (d.cbSize s)
      · have hopen := wifiSocketOpen_ok hfree hfits
        -- what is left when `t` is a client with a buffer
        have hrest : ∀ cb cbSize heap allocs, (∀ u ∈ d.server.clientIds, cb u = d.cb u) →
            cb t ≠ none →
            let d' := { d with
              state := Function.update d.state t .disconnected
              cb := cb, cbSize := cbSize, heap := heap, allocs := allocs }.addClient t
            isErrValue (listenLoop depth s m d').1 = false →
            (listenLoop depth s m d').2.ClientsInv (k + (m + 1)) ∧
              s ∉ (listenLoop depth s m d').2.server.clientIds := by
          intro cb cbSize heap allocs hcb ht d' hret'
          have hdis' : ∀ u ∈ d'.server.clientIds, d'.state u = .disconnected := by
            intro u hu
            rcases List.mem_append.mp hu with hu | hu
            · have hut : u ≠ t := fun hc => hmem (hc ▸ hu)
              simpa [d', WifiDesc.addClient, hut] using hdis u hu
            · simp [d', WifiDesc.addClient, List.mem_singleton.mp hu]
          have hinv : d'.ClientsInv (k + 1) := by
            refine ⟨?_, ?_, ?_, fun u hu => .inl (hdis' u hu)⟩
            · simp [d', WifiDesc.addClient, h.length]
            · change (d.server.clientIds ++ [t]).Nodup
              rw [← List.concat_eq_append]
              exact h.nodup.concat hmem
            · intro u hu
              rcases List.mem_append.mp hu with hu | hu
              · exact (hcb u hu).trans_ne (h.buffer u hu)
              · exact List.mem_singleton.mp hu ▸ ht
          have hused' : d'.state s ≠ .unused := by
            simpa [d', WifiDesc.addClient, hst] using hused
          have hs' : s ∉ d'.server.clientIds := by
            simp [d', WifiDesc.addClient, hs, hst]
          have hih := ih hused' hs' hinv hdis' hret'
          rwa [Nat.add_right_comm, Nat.add_assoc] at hih
        by_cases hcb : d.server.clientIds = [] ∧ Function.update d.cb t (some d.heap.next) s ≠ none
        · rw [listenLoop_hand hopen hcb] at hret ⊢
          refine hrest _ _ _ _ ?_ ?_ hret
          · simp [hcb.1]
          · simpa [hst.symm] using hcb.2
        · by_cases hfits' : (d.allocs.tail.headD {}).Fits
              (Function.update d.cbSize t (d.cbSize s) s)
          · rw [listenLoop_init hopen hcb (WifiDesc.cbInit_ok t hfits'), if_neg (by decide)] at hret ⊢
            refine hrest _ _ _ _ ?_ (by simp) hret
            intro u hu
            have hut : u ≠ t := fun hc => hmem (hc ▸ hu)
            simp [hut]
          · have hneg : ∀ d' : WifiDesc, ¬d'.nextAlloc.Fits (d'.cbSize s) →
                isErrValue (d'.cbInit t (d'.cbSize s)).1 = true := by
              intro d' hd'
              obtain ⟨ret, _, _, hneg, hinit, -⟩ := WifiDesc.cbInit_error t hd'
              rw [hinit]
              exact hneg
            rw [listenLoop_init hopen hcb Prod.mk.eta.symm, if_pos (hneg _ (by exact hfits'))] at hret
            rw [hneg _ (by exact hfits')] at hret
            cases hret
      · obtain ⟨ret, cb, next, hneg, hopen, -⟩ := wifiSocketOpen_error hfree hfits
        rw [listenLoop_stop hopen] at hret
        simp [hneg] at hret

lemma wifiSocketListen_clients {depth : ℕ} {n : UInt32} (hused : d.state s ≠ .unused)
    (hret : (wifiSocketListen depth d s n).1 = SUCCESS) :
    (wifiSocketListen depth d s n).2.ClientsInv (nbClients n) := by
  unfold wifiSocketListen at hret ⊢
  by_cases hid : d.server.id = some s
  · rw [if_neg (fun hne => hne hid)] at hret ⊢
    dsimp only at hret ⊢
    split at hret
    · rename_i hneg
      have hneg' : isErrValue SUCCESS = true := hret ▸ hneg
      cases hneg'
    · rename_i hpos
      rw [if_neg hpos]
      obtain ⟨hinv, hs⟩ := listenLoop_clients (k := 0) (d := { d with
        server := { d.server with clientIds := [] } }) hused (by simp)
        ⟨rfl, List.nodup_nil, by simp, by simp⟩ (by simp) (by simpa using hpos)
      have hcmd : (atRunCmd (listenLoop depth s (nbClients n)
          { d with server := { d.server with clientIds := [] } }).2).2.ClientsInv (nbClients n) := by
        rw [Nat.zero_add] at hinv
        exact atRunCmd_induction (hinv.congr rfl rfl hinv.state) fun _ e hd => hd.interrupt e
      obtain ⟨_, _, _, hframe⟩ := atRunCmd_frame (listenLoop depth s (nbClients n)
        { d with server := { d.server with clientIds := [] } }).2
      split at hret
      · rename_i hneg
        have hneg' : isErrValue SUCCESS = true := hret ▸ hneg
        cases hneg'
      · rename_i hpos'
        rw [if_neg hpos']
        refine hcmd.congr rfl rfl fun t ht => ?_
        have hts : t ≠ s := by
          rintro rfl
          rw [hframe] at ht
          exact hs ht
        simpa [hts] using hcmd.state t ht
  · rw [if_pos hid] at hret
    cases hret

lemma WifiDesc.ClientsInv.takesConn (h : d.ClientsInv b) : d.TakesConn b := by
  intro c hc hactive
  cases hmap : d.connIdToSockId c with
  | some t => simpa [wifiConnectionCallback, hmap] using h.buffer t (hc t hmap)
  | none =>
    obtain ⟨t, ht, hidle⟩ : ∃ t ∈ d.server.clientIds, ¬(d.state t).InConn := by
      by_contra hnone
      have hall : ∀ t ∈ d.server.clientIds, (d.state t).InConn := by
        intro t ht
        by_contra hidle
        exact hnone ⟨t, ht, hidle⟩
      have hcount : d.nbActive = d.server.clientIds.length :=
        List.countP_eq_length.mpr fun t ht => by simpa using hall t ht
      have := h.length
      lia
    have hdis := (h.state t ht).resolve_right fun hconn => hidle hconn.1
    cases hfind : d.initializedClient with
    | none => simpa [hdis] using List.find?_eq_none.mp hfind t ht
    | some u =>
      have hu := (initializedClient_some hfind).1
      simpa [wifiConnectionCallback, getInitializedClientId, hmap, hfind] using h.buffer u hu

/-- With all connection ids given to clients there is no new connection. -/
lemma WifiDesc.ClientsInv.takesConn_all (h : d.ClientsInv MAX_CONNECTIONS) (hinv : d.ConnInv none)
    (b : ℕ) : d.TakesConn b := by
  intro c hc hactive
  by_cases hall : d.nbActive < MAX_CONNECTIONS
  · exact h.takesConn c hc hall
  · cases hmap : d.connIdToSockId c with
    | some t => simpa [wifiConnectionCallback, hmap] using h.buffer t (hc t hmap)
    | none =>
      have hactive' : ∀ t ∈ d.server.clientIds, (d.state t).InConn := by
        have hlen := h.length
        have hle := List.countP_le_length (p := fun t => decide (d.state t).InConn)
          (l := d.server.clientIds)
        have hcount : d.nbActive = d.server.clientIds.length := by
          unfold nbActive at hall ⊢
          lia
        intro t ht
        simpa using List.countP_eq_length.mp hcount t ht
      -- the ids of the clients are different from each other and from `c`
      have hid : ∀ t ∈ d.server.clientIds, ∃ c', d.connId t = some c' ∧
          d.connIdToSockId c' = some t := by
        intro t ht
        have hconn := hactive' t ht
        obtain ⟨c', hc'⟩ : ∃ c', d.connId t = some c' := by
          rcases h.state t ht with hdis | hconn'
          · rw [hdis] at hconn
            exact absurd hconn (by decide)
          · exact Option.ne_none_iff_exists'.mp hconn'.2
        exact ⟨c', hc', (hinv.ok.iff c' t).mpr ⟨hconn, hc'⟩⟩
      have hsub : d.server.clientIds.toFinset.card ≤
          ((Finset.univ.erase c).map ⟨some, Option.some_injective _⟩).card := by
        apply Finset.card_le_card_of_injOn d.connId
        · intro t ht
          obtain ⟨c', hc', hmap'⟩ := hid t (List.mem_toFinset.mp ht)
          have hne : c' ≠ c := by
            rintro rfl
            simp [hmap] at hmap'
          simp [hc', hne]
        · intro t ht u hu htu
          obtain ⟨c', hc', hmap'⟩ := hid t (List.mem_toFinset.mp ht)
          obtain ⟨c'', hc'', hmap''⟩ := hid u (List.mem_toFinset.mp hu)
          have heq : c' = c'' := Option.some_inj.mp (hc'.symm.trans (htu.trans hc''))
          exact Option.some_inj.mp (hmap'.symm.trans (heq ▸ hmap''))
      rw [List.toFinset_card_of_nodup h.nodup, h.length, Finset.card_map,
        Finset.card_erase_of_mem (Finset.mem_univ c), Finset.card_univ, Fintype.card_fin] at hsub
      exact absurd hsub (by decide)

lemma WifiDesc.ConnInv.step_keepsClients (h : d.ConnInv none) (depth : ℕ) {e : WifiEvent}
    (he : e.KeepsClients) : (d.step depth e).ConnInv none := by
  cases e with
  | interrupt e => exact h.interrupt'
  | call c cmds allocs =>
    have hd : { d with cmds := cmds, allocs := allocs }.ConnInv none := h.frame ..
    cases c with
    | accept s => exact hd.accept
    | «open» | close | connect | disconnect | send | recv | bind | listen => cases he

theorem wifi_back_log (depth : ℕ) (d : WifiDesc) (s : SocketId) (n : UInt32)
    (hused : d.state s ≠ .unused) (hret : (wifiSocketListen (depth + 1) d s n).1 = SUCCESS)
    (hn : n.toNat ≤ MAX_CONNECTIONS ∨ d.ConnInv none ∧ ¬(d.state s).InConn)
    (es : List WifiEvent) (hes : ∀ e ∈ es, e.KeepsClients) :
    Trace.Always (WifiDesc.step (depth + 1)) (WifiDesc.TakesConn n.toNat)
      (wifiSocketListen (depth + 1) d s n).2 es := by
  have hstart := wifiSocketListen_clients hused hret
  have hguard : Trace.Guarded (WifiDesc.step (depth + 1)) (fun _ e => e.KeepsClients)
      (wifiSocketListen (depth + 1) d s n).2 es :=
    fun pre e hpre => hes e (hpre.subset (by simp))
  by_cases hle : n.toNat ≤ MAX_CONNECTIONS
  · have hinv := hguard.always hstart fun _ _ hd he => hd.step (depth + 1) he
    refine hinv.mono fun d' hd' c hc hactive => hd'.takesConn c hc ?_
    unfold nbClients
    split
    · rename_i h0
      simp [h0] at hactive
    · omega
  · have hclients : nbClients n = MAX_CONNECTIONS := by
      unfold nbClients
      split
      · rfl
      · omega
    obtain ⟨hconn, hidle⟩ := hn.resolve_left hle
    rw [hclients] at hstart
    have hlisten := hconn.listen (s := s) depth n fun _ => ⟨hused, hidle⟩
    have hinv := hguard.always
      (P := fun d => d.ClientsInv MAX_CONNECTIONS ∧ d.ConnInv none) ⟨hstart, hlisten⟩
      fun _ _ hd he => ⟨hd.1.step (depth + 1) he, hd.2.step_keepsClients (depth + 1) he⟩
    exact hinv.mono fun d' hd' => hd'.1.takesConn_all hd'.2 n.toNat

/-- Two clients: one is accepted and lost again, then both are taken. -/
theorem wifi_back_log_two :
    Trace.Always (WifiDesc.step 1) (WifiDesc.TakesConn 2)
      (wifiSocketListen 1 (Trace.run (WifiDesc.step 1) wifiInit
        [.call (.open 16) [] [], .call (.bind 0) [] []]) 0 2).2
      [.interrupt (.new 3), .call (.accept 0) [] [], .interrupt (.closed 3), .interrupt (.new 0),
        .interrupt (.new 1), .call (.accept 0) [] []] :=
  wifi_back_log 0 _ 0 2 (by decide) (by decide) (.inl (by decide)) _ (by decide)

/-- The only client is accepted and closed by the application, and the next connection is
refused. -/
theorem wifi_back_log_closed :
    (wifiSocketListen 1 (Trace.run (WifiDesc.step 1) wifiInit
      [.call (.open 16) [] [], .call (.bind 0) [] []]) 0 1).1 = SUCCESS ∧
    ¬WifiDesc.TakesConn 1 (Trace.run (WifiDesc.step 1)
      (wifiSocketListen 1 (Trace.run (WifiDesc.step 1) wifiInit
        [.call (.open 16) [] [], .call (.bind 0) [] []]) 0 1).2
      [.interrupt (.new 0), .call (.accept 0) [] [], .call (.close 1) [] []]) := by
  refine ⟨by decide, fun h => ?_⟩
  exact h 0 (by decide) (by decide) (by decide)

end NoOS
