import NoOS.Network.AtParserBounds
import NoOS.Network.AtParserCollect

/-!
# The search for the response

`wait_for_response` looks at one byte in each iteration. As long as nothing is taken off the
result, it finds the first response in it.
-/

namespace NoOS
open PrefixMatcher

/-- Where a response begins again inside of itself, it goes on alike. -/
lemma responses_spec :
    ∀ msg ∈ responses, BordersAgree msg ∧ 1 < msg.length ∧ msg.length < 255 := by
  decide

lemma matchFirst_hit {msgs : List (List UInt8)} {idxs idxs' : List UInt8} {ch : UInt8} {j : ℕ}
    (h : matchFirst msgs idxs ch = .ok (some j, idxs')) :
    ∃ msg, msgs[j]? = some msg ∧ (idxs'.getD j 0).toNat = msg.length := by
  induction msgs generalizing idxs idxs' j with
  | nil => cases h
  | cons msg msgs ih =>
    cases idxs with
    | nil => cases h
    | cons idx idxs =>
      rw [matchFirst] at h
      split at h
      · cases h
      next idx' hmatch =>
        obtain ⟨hj, rfl⟩ := Prod.mk.inj (Except.ok.inj h)
        obtain rfl := Option.some.inj hj
        exact ⟨msg, rfl, (matchMessage_hit hmatch).2.2⟩
      next idx' hmatch =>
        split at h
        · cases h
        next i idxs₁ hrest =>
          obtain ⟨hj, rfl⟩ := Prod.mk.inj (Except.ok.inj h)
          obtain ⟨i', rfl, rfl⟩ := Option.map_eq_some_iff.mp hj
          exact ih hrest

namespace AtDriver

/-- The loop of `wait_for_response` after `i` bytes. -/
structure Polled (d : AtDriver) (i : UInt32) (hit : Option ℕ) : Prop where
  buff : d.desc.result.buff.length = RESULT_BUFF_LEN
  wait : d.sys.wait = some ⟨i, hit⟩
  ok : d.sys.WaitOk ⟨i, hit⟩
  cut : ∀ j ∈ hit, ∃ msg, responses[j]? = some msg ∧ (d.desc.respIdx.getD j 0).toNat = msg.length

/-- No response ends before the last of the `i` bytes, and only the one that is a hit there. -/
structure Looked (d : AtDriver) (i : UInt32) (hit : Option ℕ) : Prop where
  le : i.toNat ≤ d.collected.length
  tracks : hit = none → List.Forall₂ (fun msg idx => Tracks msg idx.toNat (d.collected.take i.toNat))
    responses d.desc.respIdx
  found : ∀ j ∈ hit, ∃ msg, responses[j]? = some msg ∧ msg <:+ d.collected.take i.toNat
  miss : ∀ n ≤ i.toNat, n < i.toNat ∨ hit = none → ∀ msg ∈ responses, ¬msg <:+ d.collected.take n

variable {e d d' w : AtDriver} {i : UInt32} {hit : Option ℕ} {j n : ℕ}

lemma Polled.interrupt {irq : AtIrq} (h : d.Polled i hit) (hirq : d.interrupt irq = .ok d') :
    d'.Polled i hit := by
  have hsame := interrupt_samePoll hirq
  have hresp : d'.desc.respIdx = d.desc.respIdx := hsame.respIdx
  refine ⟨?_, hsame.wait.trans h.wait, ⟨h.ok.i, ?_, ?_⟩, hresp ▸ h.cut⟩
  · rcases interrupt_next hirq with ⟨ch, -, hnext⟩ | ⟨-, hresult⟩
    · exact hnext.buff_length.trans h.buff
    · exact hresult ▸ h.buff
  · exact hsame.respIdx ▸ h.ok.seen
  · exact hsame.respIdx ▸ h.ok.search

lemma Polled.mdelay (h : d.Polled i hit) (hdelay : d.mdelay = .ok d') : d'.Polled i hit :=
  mdelay_preserve (P := fun d => d.Polled i hit) (fun _ _ _ h hirq => h.interrupt hirq)
    (fun _ _ h => ⟨h.buff, h.wait, h.ok, h.cut⟩) h hdelay

lemma Polled.interrupts {irqs : List AtIrq} (h : d.Polled i hit) (hirqs : d.interrupts irqs = .ok d') :
    d'.Polled i hit :=
  interrupts_preserve (P := fun d => d.Polled i hit) (fun _ _ _ h hirq => h.interrupt hirq) h hirqs

lemma interrupts_samePoll {irqs : List AtIrq} (h : d.interrupts irqs = .ok d') : d.sys.SamePoll d'.sys := by
  refine interrupts_preserve (P := fun d' => d.sys.SamePoll d'.sys) ?_ ⟨rfl, rfl⟩ h
  intro d₁ d₂ irq hsame hirq
  have hnext := interrupt_samePoll hirq
  exact ⟨hnext.wait.trans hsame.wait, hnext.respIdx.trans hsame.respIdx⟩

lemma Looked.interrupts {irqs : List AtIrq} (h : d.Looked i hit) (hlevel : d.Level d')
    (hirqs : d.interrupts irqs = .ok d') : d'.Looked i hit := by
  obtain ⟨bytes, -, hgrown⟩ := hlevel
  obtain ⟨more, hmore⟩ := hgrown.keeps
  have htake : ∀ n ≤ i.toNat, d'.collected.take n = d.collected.take n := by
    intro n hn
    rw [collected, ← hmore, List.take_append_of_le_length (Nat.le_trans hn h.le)]
  have hresp : d'.desc.respIdx = d.desc.respIdx := (interrupts_samePoll hirqs).respIdx
  refine ⟨?_, ?_, ?_, ?_⟩
  · rw [collected, ← hmore, List.length_append]
    exact Nat.le_trans h.le (Nat.le_add_right _ _)
  · rw [htake _ (Nat.le_refl _), hresp]
    exact h.tracks
  · rw [htake _ (Nat.le_refl _)]
    exact h.found
  · intro n hn
    rw [htake n hn]
    exact h.miss n hn

lemma Polled.poll (h : d.Polled i none) (hpoll : d.step .pollWait = .ok d') :
    d' = d ∨ ∃ ch hit, i < d.desc.result.len ∧ d.desc.result.buff[i.toNat]? = some ch ∧
      matchFirst responses d.desc.respIdx ch = .ok (hit, d'.desc.respIdx) ∧ d'.Polled (i + 1) hit ∧
      d'.received = d.received ∧ d'.desc.result = d.desc.result := by
  obtain ⟨sys, hsys, rfl⟩ := step_ok hpoll
  simp only [AtSystem.step, h.wait] at hsys
  unfold pollResponse at hsys
  split at hsys
  next hlt =>
    split at hsys
    · cases hsys
    next ch hch =>
      split at hsys
      · cases hsys
      next hit idxs hmatch =>
        obtain rfl := Except.ok.inj hsys
        have hi : i.toNat < RESULT_BUFF_LEN := h.buff ▸ (List.getElem?_eq_some_iff.mp hch).1
        have hnext : (i + 1).toNat = i.toNat + 1 := by
          unfold RESULT_BUFF_LEN at hi
          rw [UInt32.toNat_add, UInt32.toNat_one]
          lia
        have hsearch := h.ok.search rfl
        have hbounds := matchFirst_bounds (hsearch.imp fun _ _ hlt => hlt.le) (by decide)
          fun _ : ch = 0 => hsearch
        rw [hmatch] at hbounds
        obtain ⟨-, hsucc, hsearch'⟩ := hbounds
        refine .inr ⟨ch, hit, hlt, hch, hmatch, ⟨h.buff, rfl, ⟨?_, ?_, hsearch'⟩, ?_⟩, rfl, rfl⟩
        · dsimp only
          lia
        · dsimp only
          rw [hnext]
          exact seen_succ h.ok.seen hsucc
        · rintro j rfl
          exact matchFirst_hit hmatch
  next hge =>
    obtain rfl := Except.ok.inj hsys
    exact .inl rfl

/-- The next byte ends a response or not, and the matchers are right about it. -/
lemma Looked.poll {ch : UInt8} (h : d.Looked i none) (hch : d.desc.result.buff[i.toNat]? = some ch)
    (hlt : i < d.desc.result.len)
    (hmatch : matchFirst responses d.desc.respIdx ch = .ok (hit, d'.desc.respIdx))
    (hresult : d'.desc.result = d.desc.result) : d'.Looked (i + 1) hit := by
  have hsame : d'.collected = d.collected := by rw [collected, hresult, collected]
  have hnext : (i + 1).toNat = i.toNat + 1 := by
    have hlt' := UInt32.lt_iff_toNat_lt.mp hlt
    have := d.desc.result.len.toNat_lt
    rw [UInt32.toNat_add, UInt32.toNat_one]
    lia
  have hget : d.collected[i.toNat]? = some ch := by
    rw [collected, List.getElem?_take_of_lt (UInt32.lt_iff_toNat_lt.mp hlt), hch]
  have htake : d'.collected.take (i + 1).toNat = d.collected.take i.toNat ++ [ch] := by
    rw [hsame, hnext, List.take_add_one, hget, Option.toList_some]
  have hno := h.miss i.toNat (Nat.le_refl _) (.inr rfl)
  have hspec : ∀ msg ∈ responses, (∀ idx, Tracks msg idx (d.collected.take i.toNat) →
      Restartable msg idx) ∧ 1 < msg.length ∧ msg.length < 255 := by
    intro msg hmsg
    obtain ⟨hborders, hsizes⟩ := responses_spec msg hmsg
    exact ⟨fun idx htracks => htracks.restartable hborders (hno msg hmsg), hsizes⟩
  obtain ⟨idxs, hfirst, htracks⟩ := @matchFirst_restarts _ ch _ _ hspec (h.tracks rfl) fun _ => hno
  rw [hfirst] at hmatch
  obtain ⟨hhit, hidxs⟩ := Prod.mk.inj (Except.ok.inj hmatch)
  have hmiss : hit = none → ∀ msg ∈ responses, ¬msg <:+ d.collected.take i.toNat ++ [ch] := by
    intro hnone msg hmsg
    rw [hnone, List.findIdx?_eq_none_iff] at hhit
    exact of_decide_eq_false (hhit msg hmsg)
  refine ⟨?_, ?_, ?_, ?_⟩
  · rw [hsame, hnext]
    exact (List.getElem?_eq_some_iff.mp hget).1
  · intro hnone
    rw [htake, ← hidxs]
    exact htracks (hmiss hnone)
  · intro j hj
    rw [htake]
    rw [Option.mem_def.mp hj, List.findIdx?_eq_some_iff_getElem] at hhit
    obtain ⟨hjlt, hsuffix, -⟩ := hhit
    exact ⟨responses[j], List.getElem?_eq_getElem hjlt, of_decide_eq_true hsuffix⟩
  · intro n hn hor
    rcases Nat.lt_or_eq_of_le hn with hlt' | rfl
    · rw [hsame]
      exact h.miss n (by lia) (.inr rfl)
    · rw [htake]
      exact hmiss (hor.resolve_left (Nat.lt_irrefl _))

/-- All that has been received is in the result and has been looked at, or something is missing. -/
def Scanned (e d : AtDriver) (i : UInt32) (hit : Option ℕ) : Prop :=
  e.Level d ∧ d.Looked i hit ∨ e.Behind d

lemma Scanned.interrupts {irqs : List AtIrq} (h : e.Scanned d i hit) (hirqs : d.interrupts irqs = .ok d') :
    e.Scanned d' i hit := by
  rcases h with ⟨hlevel, hlooked⟩ | hbehind
  · obtain ⟨bytes, -, hgrown⟩ := id hlevel
    rcases (Level.refl hgrown.buff hgrown.le).interrupts hirqs with hnext | hnext
    · exact .inl ⟨hlevel.trans hnext, hlooked.interrupts hnext hirqs⟩
    · exact .inr (hlevel.trans_behind hnext)
  · exact .inr (interrupts_preserve (fun _ _ _ hd h => hd.interrupt h) hbehind hirqs)

lemma Scanned.mdelay (h : e.Scanned d i hit) (hdelay : d.mdelay = .ok d') : e.Scanned d' i hit := by
  unfold AtDriver.mdelay at hdelay
  split at hdelay
  · obtain rfl := Except.ok.inj hdelay
    exact h
  next irqs arrivals _ =>
    refine Scanned.interrupts (d := { d with arrivals := arrivals }) ?_ hdelay
    exact h.imp_left fun ⟨hlevel, hlooked⟩ =>
      ⟨hlevel, hlooked.le, hlooked.tracks, hlooked.found, hlooked.miss⟩

/-- A poll that finds a response: all has been kept and it is the first one, or something has
been lost. -/
theorem pollResponses_scan (hpolled : d.Polled i none) (h : pollResponses n d = .ok (some j, w)) :
    ∃ i', w.Polled i' (some j) ∧ (e.Scanned d i none → e.Scanned w i' (some j)) := by
  induction n generalizing d i with
  | zero => cases (Prod.mk.inj (Except.ok.inj h)).1
  | succ n ih =>
    rw [pollResponses] at h
    obtain ⟨d₁, hpoll, h⟩ := bind_eq_ok.mp h
    -- the iteration
    have hstep : ∃ i₁ hit, d₁.Polled i₁ hit ∧ (e.Scanned d i none → e.Scanned d₁ i₁ hit) := by
      rcases hpolled.poll hpoll with rfl | ⟨ch, hit, hlt, hch, hmatch, hpolled₁, hrec, hresult⟩
      · exact ⟨i, none, hpolled, id⟩
      · refine ⟨i + 1, hit, hpolled₁, ?_⟩
        rintro (⟨⟨bytes, hbytes, hgrown⟩, hlooked⟩ | ⟨bytes, hbytes, hshort⟩)
        · exact .inl ⟨⟨bytes, hrec.trans hbytes, hresult ▸ hgrown⟩, hlooked.poll hch hlt hmatch hresult⟩
        · exact .inr ⟨bytes, hrec.trans hbytes, hresult ▸ hshort⟩
    obtain ⟨i₁, hit, hpolled₁, hscan⟩ := hstep
    rw [hpolled₁.wait] at h
    cases hit with
    | some j₁ =>
      obtain ⟨hj, rfl⟩ := Prod.mk.inj (Except.ok.inj h)
      obtain rfl := Option.some.inj hj
      exact ⟨i₁, hpolled₁, hscan⟩
    | none =>
      obtain ⟨d₂, hdelay, h⟩ := bind_eq_ok.mp h
      obtain ⟨i', hpolled', hscan'⟩ := ih (hpolled₁.mdelay hdelay) h
      exact ⟨i', hpolled', fun hd => hscan' ((hscan hd).mdelay hdelay)⟩

end AtDriver

end NoOS
