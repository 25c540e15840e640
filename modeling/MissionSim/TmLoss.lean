import Mathlib.Data.List.Flatten
import Mathlib.Data.List.Nodup
import MissionSim.TmTrace

/-!
# Losing frames

A parser that misses frames must not lose more than it has to: a packet all of
whose octets arrive comes out, once and in order, whatever else went missing.

Two facts carry this.  Extraction only ever drops octets, so what comes out is a
subsequence of what arrived.  And a packet whose octets all arrive is completed
in step: the zone in which it starts brings the reassembly buffer back, and every
zone from there to its end is delivered.
-/

namespace Ccsds

open Octets Ecss Octet List

variable {α : Type} [Octet α]

/-! ### Extraction drops octets and never makes any -/

theorem skipIdle_suffix (buf : List α) : skipIdle buf <:+ buf :=
  dropWhile_suffix _

theorem extractLoop_sublist (fuel : Nat) (buf : List α) :
    ((extractLoop fuel buf).1.flatten ++ (extractLoop fuel buf).2).Sublist buf := by
  induction fuel generalizing buf with
  | zero => simp [extractLoop]
  | succ fuel ih =>
      unfold extractLoop
      dsimp only
      split
      · split
        · exact (ih _).trans (drop_sublist 1 buf)
        · split
          · simp
          · have hrest := (ih _).trans (skipIdle_suffix (buf.drop (announcedLength buf))).sublist
            have := hrest.append_left (buf.take (announcedLength buf))
            rwa [take_append_drop, ← append_assoc, ← flatten_cons] at this
      · simp

theorem extractFromBuffer_sublist (p : TMFrameParser α) :
    (p.extractFromBuffer.1.flatten ++ p.extractFromBuffer.2.reassemblyBuffer).Sublist
      p.reassemblyBuffer := by
  unfold TMFrameParser.extractFromBuffer
  split
  · simp
  · exact extractLoop_sublist _ _

theorem extractPackets_sublist (p : TMFrameParser α) (frame : TMFrame α) :
    ((p.extractPackets frame).1.flatten ++ (p.extractPackets frame).2.reassemblyBuffer).Sublist
      (p.reassemblyBuffer ++ frame.data) := by
  unfold TMFrameParser.extractPackets
  dsimp only
  split
  · simp
  · split
    · exact extractFromBuffer_sublist _
    · split
      · exact (extractFromBuffer_sublist _).trans (sublist_append_right _ _)
      · generalize frame.header.firstHeaderPointer = fhp
        generalize hpre : TMFrameParser.extractFromBuffer { p with
          reassemblyBuffer := p.reassemblyBuffer ++ frame.data.take fhp } = pre
        have hleft : pre.1.flatten.Sublist (p.reassemblyBuffer ++ frame.data.take fhp) := by
          rw [← hpre]
          exact (sublist_append_left _ _).trans (extractFromBuffer_sublist _)
        have hright := extractFromBuffer_sublist
          { pre.2 with reassemblyBuffer := frame.data.drop fhp }
        have := hleft.append hright
        rwa [append_assoc, take_append_drop, ← append_assoc,
          ← flatten_append] at this

/-- What comes out of a frame sequence is a subsequence of what went in. -/
theorem extractAll_sublist (p : TMFrameParser α) (frames : List (TMFrame α)) :
    (p.extractAll frames).1.flatten.Sublist
      (p.reassemblyBuffer ++ (frames.map TMFrame.data).flatten) := by
  induction frames generalizing p with
  | nil => simp [TMFrameParser.extractAll]
  | cons frame frames ih =>
      have hhead := extractPackets_sublist p frame
      have htail := ih (p.extractPackets frame).2
      simp only [TMFrameParser.extractAll, flatten_append, map_cons, flatten_cons]
      refine (htail.append_left _).trans ?_
      rw [← append_assoc, ← append_assoc]
      exact hhead.append_right _

/-! ### Octets of a run of zones -/

/-- The octets of a zone that are not fill. -/
def Zone.octets (z : Zone α) : List α := z.cont ++ (z.whole.flatten ++ z.head)

variable {done : List (List α)} {s d s' d' : List α} {z : Zone α} {dz : Nat}

/-- A zone moves its octets from due to sent or completed. -/
theorem ZoneStep.stream (h : ZoneStep dz s d z done s' d') :
    done.flatten ++ s' = s ++ z.octets := by
  cases h with
  | through => simp [Zone.octets]
  | finish => simp [Zone.octets, inProgress_flatten]

omit [Octet α] in
theorem Zone.data_eq (z : Zone α) : z.data = z.octets ++ z.pad := by
  simp [Zone.data, Zone.octets]

theorem ZoneStep.pad_idle (h : ZoneStep dz s d z done s' d') : ∀ x ∈ z.pad, x = idle := by
  cases h with
  | through => simp
  | finish _ _ _ hpad => exact hpad

/-- Everything in a zone is fill or one of its octets. -/
theorem ZoneStep.mem_data (h : ZoneStep dz s d z done s' d') {x : α} (hx : x ∈ z.data) :
    x = idle ∨ x ∈ z.octets := by
  rw [z.data_eq, mem_append] at hx
  exact hx.symm.imp_left (h.pad_idle x)

variable {zs : List (Zone α)}

theorem ZoneRun.stream (h : ZoneRun dz s d zs done s' d') :
    done.flatten ++ s' = s ++ (zs.map Zone.octets).flatten := by
  induction h with
  | nil => simp
  | cons step _ ih =>
      rw [flatten_append, append_assoc, ih, ← append_assoc, step.stream]
      simp

/-- Octets found in the frames of a run are fill or octets of its zones. -/
theorem ZoneRun.mem_frames {frames : List (TMFrame α)} (h : ZoneRun dz s d zs done s' d')
    (hcarried : CarriedBy frames zs) {frame : TMFrame α} (hframe : frame ∈ frames) {x : α}
    (hx : x ∈ frame.data) : x = idle ∨ x ∈ (zs.map Zone.octets).flatten := by
  induction hcarried generalizing s d done with
  | nil => simp at hframe
  | cons hfirst _ ih =>
      cases h with
      | cons step tail =>
          rw [map_cons, flatten_cons, mem_append]
          rcases mem_cons.mp hframe with rfl | hframe
          · rw [hfirst.1] at hx
            exact (step.mem_data hx).imp_right Or.inl
          · exact (ih tail hframe).imp_right Or.inr

/-! ### A packet that arrives whole is completed in step -/

variable {sent due sent' due' packet : List α}

/-- A frame yields the packets its zone completes; for the packet in progress the
buffer has to hold what was sent of it. -/
theorem extractPackets_completes {p : TMFrameParser α} {frame : TMFrame α}
    (hfmt : p.format.CarriesPackets)
    (hstep : ZoneStep p.format.dataZoneLength sent due z done sent' due')
    (hcarries : frame.Carries z) (hmem : packet ∈ done)
    (hbuf : packet = sent ++ due → sent ≠ [] → p.reassemblyBuffer = sent) :
    packet ∈ (p.extractPackets frame).1 := by
  have hstep' := hstep
  cases hstep with
  | through => simp at hmem
  | finish hopen hwhole hopen' hpad hpadHead hlen hne =>
      rcases mem_append.mp hmem with hin | hin
      · have hp : packet = sent ++ due := by
          unfold inProgress at hin
          split at hin
          · simp at hin
          · exact mem_singleton.mp hin
        have hsent : sent ≠ [] := by
          rcases hopen with ⟨rfl, rfl⟩ | ⟨hs, _, _⟩
          · simp at hin
          · exact hs
        have hb := hbuf hp hsent
        rw [← hb] at hstep'
        rw [extractPackets_step hfmt hstep' hcarries, hb]
        exact hmem
      · rename_i pad whole
        have hpad' : ∀ x ∈ pad, byte x = 0xFE := fun x hx => hpad x hx ▸ byte_idle
        have hwhole' : whole ≠ [] := ne_nil_of_mem hin
        rw [extractPackets_starts hfmt hwhole hopen' hpad' hpadHead hlen
          (fun h => hwhole' h.1) hcarries]
        exact mem_append_right _ hin

/-- After a frame the buffer holds what was sent of the packet then in progress,
if its octets in this zone continue a buffer that did so before. -/
theorem extractPackets_opens {p : TMFrameParser α} {frame : TMFrame α}
    {sent due sent' due' : List α} (hfmt : p.format.CarriesPackets)
    (hstep : ZoneStep p.format.dataZoneLength sent due z done sent' due')
    (hcarries : frame.Carries z) (hne : sent' ≠ [])
    (hbuf : sent' ++ due' = sent ++ due → sent ≠ [] → p.reassemblyBuffer = sent) :
    (p.extractPackets frame).2.reassemblyBuffer = sent' := by
  have hstep' := hstep
  cases hstep with
  | through hopen hlen hpos hdue =>
      have hsent : sent ≠ [] := by
        rcases hopen with ⟨_, h⟩ | ⟨hs, _, _⟩
        · exact absurd (append_eq_nil_iff.mp h).2 hdue
        · exact hs
      have hb := hbuf (by simp) hsent
      rw [← hb] at hstep'
      rw [extractPackets_step hfmt hstep' hcarries, hb]
  | finish hopen hwhole hopen' hpad hpadHead hlen hne' =>
      have hpad' : ∀ x ∈ _, byte x = 0xFE := fun x hx => hpad x hx ▸ byte_idle
      rw [extractPackets_starts hfmt hwhole hopen' hpad' hpadHead hlen
        (fun h => hne h.2) hcarries]

/-- A packet that a zone completes has octets in that zone. -/
theorem ZoneStep.exists_mem_octets (h : ZoneStep dz sent due z done sent' due')
    (hmem : packet ∈ done) : ∃ x ∈ packet, x ∈ z.octets := by
  cases h with
  | through => simp at hmem
  | finish hopen hwhole =>
      rcases mem_append.mp hmem with hin | hin
      · unfold inProgress at hin
        split at hin
        · simp at hin
        · rename_i hne
          rcases hopen with ⟨rfl, rfl⟩ | ⟨_, hdue, _⟩
          · simp at hne
          · obtain ⟨x, hx⟩ := exists_mem_of_ne_nil due hdue
            exact ⟨x, by simp [mem_singleton.mp hin, hx], by simp [Zone.octets, hx]⟩
      · obtain ⟨x, hx⟩ := exists_mem_of_ne_nil packet (hwhole packet hin).ne_nil
        refine ⟨x, hx, ?_⟩
        simp only [Zone.octets, mem_append]
        exact Or.inr (Or.inl (mem_flatten.mpr ⟨packet, hin, hx⟩))

/-- A packet still in progress after a zone has octets in it. -/
theorem ZoneStep.exists_mem_sent {sent due sent' due' : List α}
    (h : ZoneStep dz sent due z done sent' due') (hne : sent' ≠ []) :
    ∃ x ∈ sent', x ∈ z.octets := by
  cases h with
  | @through cont _ _ hlen hpos _ =>
      obtain ⟨x, hx⟩ := exists_mem_of_ne_nil cont (by rintro rfl; simp at hlen; omega)
      exact ⟨x, by simp [hx], by simp [Zone.octets, hx]⟩
  | finish =>
      obtain ⟨x, hx⟩ := exists_mem_of_ne_nil sent' hne
      exact ⟨x, hx, by simp [Zone.octets, hx]⟩

/-- **Loss is contained.**  In a run whose octets all differ, a packet comes out of
the frames kept as soon as every octet of it not sent before the run lies in one
of them. -/
theorem completed_extracted {p : TMFrameParser α} {frames kept : List (TMFrame α)}
    (hfmt : p.format.CarriesPackets)
    (hrun : ZoneRun p.format.dataZoneLength sent due zs done sent' due')
    (hcarried : CarriedBy frames zs) (hkept : kept.Sublist frames)
    (hnodup : (done.flatten ++ sent').Nodup) (hidle : idle ∉ done.flatten ++ sent')
    (hmem : packet ∈ done) (hbuf : packet = sent ++ due → sent ≠ [] → p.reassemblyBuffer = sent)
    (hall : ∀ x ∈ packet, x ∉ sent → ∃ frame ∈ kept, x ∈ frame.data) :
    packet ∈ (p.extractAll kept).1 := by
  induction hcarried generalizing p kept sent due done with
  | nil =>
      cases hrun
      simp at hmem
  | @cons frame z frames zs hframe hframes ih =>
      cases hrun with
      | @cons _ _ sent₁ due₁ _ _ _ _ done₁ dones step tail =>
          -- octets of this zone, and of the zones after it, are apart
          have hstream := step.stream
          have hlater := tail.stream
          rw [flatten_append, append_assoc] at hnodup hidle
          have hapart : ∀ x, x ∈ sent ++ z.octets → x ∉ (zs.map Zone.octets).flatten := by
            intro x hx hx'
            rw [hlater, ← append_assoc, hstream] at hnodup
            exact (nodup_append.mp hnodup).2.2 x hx x hx' rfl
          have hnew : ∀ x ∈ z.octets, x ∉ sent := by
            intro x hx hx'
            rw [hlater, ← append_assoc, hstream] at hnodup
            exact (nodup_append.mp (nodup_append.mp hnodup).1).2.2 x hx' x hx rfl
          have hfill : ∀ x ∈ sent ++ z.octets, x ≠ idle := by
            rintro x hx rfl
            rw [hlater, ← append_assoc, hstream] at hidle
            exact hidle (mem_append_left _ hx)
          have hhere : ∀ x ∈ z.octets, ∀ f ∈ frames, x ∉ f.data := by
            intro x hx f hf hxf
            rcases tail.mem_frames hframes hf hxf with rfl | hx'
            · exact hfill _ (mem_append_right _ hx) rfl
            · exact hapart x (mem_append_right _ hx) hx'
          have htailNodup := (nodup_append.mp hnodup).2.1
          have htailIdle : idle ∉ dones.flatten ++ sent' := fun h =>
            hidle (mem_append_right _ h)
          -- octets of a later packet are not in this zone unless it is then in progress
          have hnot : packet ∈ dones → ∀ x ∈ packet, x ∉ sent₁ → x ∉ sent ++ z.octets := by
            intro hlate x hx hsent₁ hx'
            rw [← hstream] at hx'
            rcases mem_append.mp hx' with hx' | hx'
            · have : x ∈ dones.flatten ++ sent' :=
                mem_append_left _ (mem_flatten.mpr ⟨packet, hlate, hx⟩)
              exact (nodup_append.mp hnodup).2.2 x hx' x this rfl
            · exact hsent₁ hx'
          have hrest : packet ∈ dones → ∀ x ∈ packet, x ∉ sent₁ →
              ∃ f ∈ kept, x ∈ f.data ∧ x ∉ frame.data := by
            intro hlate x hx hsent₁
            have hout := hnot hlate x hx hsent₁
            obtain ⟨f, hf, hxf⟩ := hall x hx (fun h => hout (mem_append_left _ h))
            refine ⟨f, hf, hxf, fun h => ?_⟩
            rw [hframe.1] at h
            rcases step.mem_data h with rfl | h
            · exact htailIdle (mem_append_left _ (mem_flatten.mpr ⟨packet, hlate, hx⟩))
            · exact hout (mem_append_right _ h)
          have hkeep : (∃ x ∈ packet, x ∈ z.octets) → ¬ kept.Sublist frames := by
            rintro ⟨x, hx, hxz⟩ hsub
            obtain ⟨f, hf, hxf⟩ := hall x hx (hnew x hxz)
            exact hhere x hxz f (hsub.subset hf) hxf
          cases hkept with
          | cons _ hsub =>
              -- the frame is lost, so nothing of the packet is in it
              rcases mem_append.mp hmem with hnow | hlate
              · exact absurd hsub (hkeep (step.exists_mem_octets hnow))
              · refine ih hfmt tail hsub htailNodup htailIdle hlate ?_ ?_
                · intro hp hne
                  obtain ⟨x, hx, hxz⟩ := step.exists_mem_sent hne
                  exact absurd hsub (hkeep ⟨x, by simp [hp, hx], hxz⟩)
                · intro x hx hsent₁
                  obtain ⟨f, hf, hxf, _⟩ := hrest hlate x hx hsent₁
                  exact ⟨f, hf, hxf⟩
          | @cons_cons kept' _ _ hsub =>
              simp only [TMFrameParser.extractAll, mem_append]
              rcases mem_append.mp hmem with hnow | hlate
              · exact Or.inl (extractPackets_completes hfmt step hframe hnow hbuf)
              · have hfmt' : (p.extractPackets frame).2.format.CarriesPackets := by
                  rwa [extractPackets_format]
                have htail : ZoneRun (p.extractPackets frame).2.format.dataZoneLength
                    sent₁ due₁ zs dones sent' due' := by
                  rwa [extractPackets_format]
                refine Or.inr (ih hfmt' htail hsub htailNodup htailIdle hlate ?_ ?_)
                · intro hp hne
                  exact extractPackets_opens hfmt step hframe hne
                    (fun h => hbuf (hp.trans h))
                · intro x hx hsent₁
                  obtain ⟨f, hf, hxf, hno⟩ := hrest hlate x hx hsent₁
                  rcases mem_cons.mp hf with rfl | hf
                  · exact absurd hxf hno
                  · exact ⟨f, hf, hxf⟩

/-! ### Subsequences of packets -/

/-- A list starting with an element outside `l` is a subsequence of what follows `l`. -/
theorem sublist_of_cons_sublist_append {β : Type} {a : β} {as l r : List β}
    (h : (a :: as).Sublist (l ++ r)) (ha : a ∉ l) : (a :: as).Sublist r := by
  induction l with
  | nil => exact h
  | cons b l ih =>
      cases h with
      | cons _ h => exact ih h (fun hmem => ha (mem_cons_of_mem _ hmem))
      | cons_cons => exact absurd mem_cons_self ha

/-- Nonempty packets without a common octet whose octets form a subsequence are a
subsequence themselves. -/
theorem sublist_of_flatten_sublist {β : Type} {ps qs : List (List β)}
    (hne : ∀ q ∈ qs, q ≠ []) (hnodup : qs.flatten.Nodup) (hsub : ∀ p ∈ ps, p ∈ qs)
    (h : ps.flatten.Sublist qs.flatten) : ps.Sublist qs := by
  induction qs generalizing ps with
  | nil =>
      cases ps with
      | nil => exact List.Sublist.slnil
      | cons p ps => simpa using hsub p mem_cons_self
  | cons q qs ih =>
      rw [flatten_cons] at hnodup h
      have hqs := (nodup_append.mp hnodup).2.1
      have hapart := (nodup_append.mp hnodup).2.2
      have hne' : ∀ q ∈ qs, q ≠ [] := fun q hq => hne q (mem_cons_of_mem _ hq)
      -- once the octets lie after `q`, so do the packets
      have hafter : ∀ rs : List (List β), (∀ p ∈ rs, p ∈ q :: qs) →
          rs.flatten.Sublist qs.flatten → rs.Sublist qs := by
        intro rs hrs hflat
        refine ih hne' hqs (fun p hp => ?_) hflat
        rcases mem_cons.mp (hrs p hp) with rfl | hmem
        · obtain ⟨x, hx⟩ := exists_mem_of_ne_nil p (hne p mem_cons_self)
          have hx' := hflat.subset (mem_flatten.mpr ⟨p, hp, hx⟩)
          exact absurd rfl (hapart x hx x hx')
        · exact hmem
      cases ps with
      | nil => exact nil_sublist _
      | cons p ps =>
          have hps : ∀ r ∈ ps, r ∈ q :: qs := fun r hr => hsub r (mem_cons_of_mem _ hr)
          rcases mem_cons.mp (hsub p mem_cons_self) with rfl | hp
          · rw [flatten_cons, append_sublist_append_left] at h
            exact (hafter ps hps h).cons_cons p
          · refine (hafter (p :: ps) hsub ?_).cons q
            cases p with
            | nil => exact absurd rfl (hne' [] hp)
            | cons x p =>
                refine sublist_of_cons_sublist_append h (fun hx => ?_)
                exact hapart x hx x (mem_flatten.mpr ⟨_, hp, mem_cons_self⟩) rfl

/-- A subsequence of distinct elements is the filter by its members. -/
theorem eq_filter_of_sublist {β : Type} {ps qs : List β} (h : ps.Sublist qs) (hnodup : qs.Nodup)
    {keep : β → Bool} (hkeep : ∀ q ∈ qs, keep q = true ↔ q ∈ ps) : ps = qs.filter keep := by
  induction h with
  | slnil => rfl
  | @cons ps qs q h ih =>
      have hq := nodup_cons.mp hnodup
      have hdrop : keep q = false := by
        rw [← Bool.not_eq_true, hkeep q mem_cons_self]
        exact fun hmem => hq.1 (h.subset hmem)
      rw [filter_cons_of_neg (by simp [hdrop])]
      exact ih hq.2 fun r hr => hkeep r (mem_cons_of_mem _ hr)
  | @cons_cons ps qs q h ih =>
      have hq := nodup_cons.mp hnodup
      rw [filter_cons_of_pos (by simp [hkeep q])]
      refine congrArg (q :: ·) (ih hq.2 fun r hr => ?_)
      rw [hkeep r (mem_cons_of_mem _ hr), mem_cons, or_iff_right]
      rintro rfl
      exact hq.1 hr

/-! ### Delivered frames -/

/-- The elements at the positions of `mask`, in order. -/
def delivered {β : Type} (mask : Nat → Bool) (frames : List β) : List β :=
  (frames.zipIdx.filter fun x => mask x.2).map Prod.fst

theorem delivered_sublist {β : Type} (mask : Nat → Bool) (frames : List β) :
    (delivered mask frames).Sublist frames := by
  have h := (filter_sublist (l := frames.zipIdx) (p := fun x => mask x.2)).map Prod.fst
  simpa [delivered] using h

theorem delivered_map {β γ : Type} (mask : Nat → Bool) (f : β → γ) (frames : List β) :
    delivered mask (frames.map f) = (delivered mask frames).map f := by
  simp [delivered, zipIdx_map, filter_map, Function.comp_def]

/-- Every octet of the packet lies in one of the frames. -/
def ArrivesIn (frames : List (TMFrame Traced)) (packet : List Traced) : Prop :=
  ∀ x ∈ packet, ∃ frame ∈ frames, x ∈ frame.data

instance (frames : List (TMFrame Traced)) (packet : List Traced) :
    Decidable (ArrivesIn frames packet) :=
  inferInstanceAs (Decidable (∀ x ∈ packet, ∃ frame ∈ frames, x ∈ frame.data))

/-- The octets of a run that are not fill are those of the packets it completes. -/
theorem filter_frames_data [DecidableEq α] {frames : List (TMFrame α)}
    (hrun : ZoneRun dz s d zs done s' d') (hcarried : CarriedBy frames zs)
    (hidle : idle ∉ (zs.map Zone.octets).flatten) :
    (frames.map TMFrame.data).flatten.filter (fun x => decide (x ≠ idle)) =
      (zs.map Zone.octets).flatten := by
  induction hcarried generalizing s d done with
  | nil => rfl
  | @cons frame z frames zs hframe _ ih =>
      cases hrun with
      | cons step tail =>
          rw [map_cons, flatten_cons, mem_append, not_or] at hidle
          simp only [map_cons, flatten_cons, filter_append, ih tail hidle.2]
          congr 1
          have hkeep : z.octets.filter (fun x => decide (x ≠ idle)) = z.octets :=
            filter_eq_self.mpr fun x hx => by
              simpa using fun h : x = idle => hidle.1 (h ▸ hx)
          have hdrop : z.pad.filter (fun x => decide (x ≠ idle)) = [] :=
            filter_eq_nil_iff.mpr fun x hx => by simp [step.pad_idle x hx]
          rw [hframe.1, z.data_eq, filter_append, hkeep, hdrop, append_nil]

/-- Packets without a common octet are distinct. -/
theorem nodup_of_nodup_flatten {β : Type} {qs : List (List β)} (hne : ∀ q ∈ qs, q ≠ [])
    (h : qs.flatten.Nodup) : qs.Nodup := by
  refine (nodup_flatten.mp h).2.imp_of_mem ?_
  rintro p _ hp _ hdisj rfl
  obtain ⟨x, hx⟩ := exists_mem_of_ne_nil p (hne p hp)
  exact hdisj hx hx

/-- **Frame loss is contained.**  Frames of a flushed session are lost in any
pattern.  What the ground parser gives back are octets of traced packets; the
ones among them that were sent are exactly the packets all of whose octets were
delivered, each once and in the order sent. -/
theorem receive_delivered (scid vcid : Nat) {fmt : FrameFormat} (hfmt : fmt.CarriesPackets)
    (ops : List (FrameOp UInt8)) (hops : ∀ p ∈ packetsAdded ops, WellFormedPacket p)
    (mask : Nat → Bool) :
    let sent := (({ scid := scid, format := fmt } : TMFrameBuilder UInt8).run vcid
      (ops ++ [.flush])).1
    let kept := delivered mask (({ scid := scid, format := fmt } : TMFrameBuilder Traced).run
      vcid (traceOps 0 (ops ++ [.flush]))).1
    let out := (({ format := fmt } : TMFrameParser Traced).extractAll kept).1
    let packets := tracePackets 0 (packetsAdded ops)
    ({ format := fmt } : TMFrameParser UInt8).receive (delivered mask (sent.map TMFrame.wire)) =
        out.map bytesOf ∧
      out.filter (fun q => decide (q ∈ packets)) =
        packets.filter (fun q => decide (ArrivesIn kept q)) := by
  intro sent kept out packets
  have hwf : ∀ p ∈ packetsAdded (traceOps 0 ops), WellFormedPacket p := by
    rw [packetsAdded_traceOps]
    exact wellFormedPacket_tracePackets hops
  obtain ⟨zs, hframes⟩ := run_flush_frames scid vcid fmt hwf
  rw [packetsAdded_traceOps, ← traceOps_append_flush] at hframes
  have hsub := delivered_sublist mask (({ scid := scid, format := fmt } :
    TMFrameBuilder Traced).run vcid (traceOps 0 (ops ++ [.flush]))).1
  have hstream := hframes.run.stream
  rw [List.append_nil, List.nil_append] at hstream
  have hidle := idle_notMem_tracePackets 0 (packetsAdded ops)
  have hnodup := nodup_tracePackets 0 (packetsAdded ops)
  have hne : ∀ q ∈ packets, q ≠ [] := fun q hq =>
    (wellFormedPacket_tracePackets hops q hq).ne_nil
  have hbytes : ({ format := fmt } : TMFrameParser UInt8).receive
      (delivered mask (sent.map TMFrame.wire)) = out.map bytesOf := by
    have hself : Follows ({ format := fmt } : TMFrameParser UInt8)
        ({ format := fmt } : TMFrameParser Traced) := ⟨rfl, rfl⟩
    rw [show sent.map TMFrame.wire = _ from wires_traceOps scid vcid fmt _, delivered_map]
    exact receive_wires hself fun frame hmem =>
      ⟨⟨vcid, hframes.sealed frame (hsub.subset hmem)⟩,
        (hframes.pointer_lt hfmt.1 frame (hsub.subset hmem)).1⟩
  refine ⟨hbytes, ?_⟩
  have hout : out.flatten.Sublist (kept.map TMFrame.data).flatten := by
    simpa using extractAll_sublist ({ format := fmt } : TMFrameParser Traced) kept
  -- what came out of the packets sent is a subsequence of them
  have hflat : (out.filter fun q => decide (q ∈ packets)).flatten.Sublist packets.flatten := by
    have hkeep : (out.filter fun q => decide (q ∈ packets)).flatten.filter
        (fun x => decide (x ≠ Octet.idle)) = (out.filter fun q => decide (q ∈ packets)).flatten := by
      refine List.filter_eq_self.mpr fun x hx => ?_
      obtain ⟨q, hq, hxq⟩ := List.mem_flatten.mp hx
      have hq' : q ∈ packets := by simpa using (List.mem_filter.mp hq).2
      have hne : x ≠ Octet.idle := fun h => hidle (h ▸ List.mem_flatten.mpr ⟨q, hq', hxq⟩)
      simpa using hne
    have hgenuine : (out.filter fun q => decide (q ∈ packets)).flatten.Sublist out.flatten :=
      List.Sublist.flatten List.filter_sublist
    have hall := (hgenuine.trans hout).trans (hsub.map TMFrame.data).flatten
    have := hall.filter fun x => decide (x ≠ Octet.idle)
    rwa [hkeep, filter_frames_data hframes.run hframes.carried (by rw [← hstream]; exact hidle),
      ← hstream] at this
  have hsublist := sublist_of_flatten_sublist hne hnodup
    (fun q hq => by simpa using (List.mem_filter.mp hq).2) hflat
  refine eq_filter_of_sublist hsublist (nodup_of_nodup_flatten hne hnodup) fun q hq => ?_
  rw [decide_eq_true_eq, List.mem_filter, decide_eq_true_eq, and_iff_left hq]
  constructor
  · intro harrives
    exact completed_extracted hfmt hframes.run hframes.carried hsub
      (by simpa using hnodup) (by simpa using hidle) hq (fun _ h => absurd rfl h)
      (fun x hx _ => harrives x hx)
  · intro hmem x hx
    have := hout.subset (List.mem_flatten.mpr ⟨q, hmem, hx⟩)
    simpa [List.mem_flatten] using this

/-- One short packet, both frames of its session delivered. -/
theorem receive_delivered_short :
    let sent := (({ scid := 1, format := FrameFormat.standard } : TMFrameBuilder UInt8).run 0
      ([.add [8, 1, 192, 0, 0, 0, 42]] ++ [.flush])).1
    let kept := delivered (fun _ => true) (({ scid := 1, format := FrameFormat.standard } :
      TMFrameBuilder Traced).run 0 (traceOps 0 ([.add [8, 1, 192, 0, 0, 0, 42]] ++ [.flush]))).1
    let out := (({ format := FrameFormat.standard } : TMFrameParser Traced).extractAll kept).1
    let packets := tracePackets 0 (packetsAdded [.add [8, 1, 192, 0, 0, 0, 42]])
    ({ format := FrameFormat.standard } : TMFrameParser UInt8).receive
        (delivered (fun _ => true) (sent.map TMFrame.wire)) = out.map bytesOf ∧
      out.filter (fun q => decide (q ∈ packets)) =
        packets.filter (fun q => decide (ArrivesIn kept q)) :=
  receive_delivered 1 0 FrameFormat.standard_carriesPackets
    [.add [8, 1, 192, 0, 0, 0, 42]]
    (by
      intro p hp
      rw [List.mem_singleton.mp hp]
      exact .of_cons (by decide) (by decide) (by decide) (by decide))
    (fun _ => true)

/-- A packet of 281 octets. -/
def longPacket : Bytes := [8, 1, 192, 0, 1, 18] ++ List.replicate 275 0

theorem longPacket_wellFormed : WellFormedPacket longPacket := by
  exact .of_cons (by decide +kernel) (by decide +kernel) (by decide +kernel) (by decide)

/-- On a link of 64-octet frames the reassembly cap is five zones of 56 octets, less
than this packet and the fill behind it: every frame is delivered and nothing
comes out. -/
theorem narrow_link_loses_packet :
    WellFormedPacket longPacket ∧
    ({ format := ⟨64, true, by decide⟩ } : TMFrameParser UInt8).receive
      (delivered (fun _ => true) ((({ format := ⟨64, true, by decide⟩ } :
        TMFrameBuilder UInt8).run 0 ([.add longPacket] ++ [.flush])).1.map TMFrame.wire)) = [] := by
  refine ⟨longPacket_wellFormed, ?_⟩
  decide +kernel

end Ccsds
