import ConfigKeys.Proofs.Plugin.Convert
import ConfigKeys.Proofs.Pool.Tree

/-!
# Texts that come back

A stage of a filter is taken back by a stage in the other direction, and not from what was there
before.  So a text comes back if the second conversion undoes the first one, and only then: it does
if the one charset has no second spelling for a character, and the other one reads what it writes.

## Main definitions

* `Charset.carry`, `Charset.Carries` — what a stage makes of a text, and whether it goes through.
* `Charset.GivesBack` — a text that went to another charset comes back as it was.
* `Pool.content` — what an application reads of a key.

## Main results

* `Charset.givesBack_of_isExact` — so it is with charsets of one byte for each character, and UTF-8.
* `CharsetFilter.convert_carries` — a stage goes through if every text does.
* `CharsetFilter.convert_back` — two stages leave all bytes as they were if every text comes back.
* `Pool.Carried.carries_back`, `Pool.Carried.content_eq` — so do two stages of which the second one
  works on copies.
-/

namespace ConfigKeys

/-! ### One text -/

namespace Charset

variable {source target a b : Charset} {bytes stored : List UInt8} {v : Value}

theorem convert_eq_ok : source.convert target bytes = .ok stored ↔
    ∃ text, source.decode? bytes = some text ∧ target.encode? text = some stored := by
  rw [convert]
  rcases source.decode? bytes with _ | text
  · simp
  · rcases htext : target.encode? text with _ | written
    · simp [htext]
    · simp [htext]

/-- What a stage makes of a text: from a charset to itself there is nothing to convert. -/
def carry (source target : Charset) (v : Value) : Value :=
  if source = target then v else source.recode target v

/-- A text goes through. -/
def Carries (source target : Charset) (bytes : List UInt8) : Prop :=
  source = target ∨ ∃ stored, source.convert target bytes = .ok stored

/-- A text that goes to another charset comes back as it was. -/
def GivesBack (a b : Charset) (bytes : List UInt8) : Prop :=
  a = b ∨ ∀ stored, a.convert b bytes = .ok stored → b.convert a stored = .ok bytes

/-- What is stored anew is a text. -/
theorem carry_cases (source target : Charset) (v : Value) :
    source.carry target v = v ∨ (source.carry target v).binary = false := by
  rw [carry, recode]
  split
  · exact .inl rfl
  · split
    · split
      · exact .inl rfl
      · exact .inr rfl
    · exact .inl rfl

/-- **A text comes back** from a charset that reads what it writes to one that has no second
spelling for a character. -/
theorem givesBack_of_coding (ha : a.coding.Canonical) (hb : b.coding.ReadsBack)
    (bytes : List UInt8) : a.GivesBack b bytes := by
  refine .inr fun stored hstored => ?_
  obtain ⟨text, hdecode, hencode⟩ := convert_eq_ok.mp hstored
  exact convert_eq_ok.mpr ⟨text, hb text stored hencode, ha text bytes hdecode⟩

/-- **Every text comes back** between charsets of one byte for each character, and UTF-8. -/
theorem givesBack_of_isExact (ha : a.isExact = true) (hb : b.isExact = true)
    (bytes : List UInt8) : a.GivesBack b bytes :=
  givesBack_of_coding (canonical_of_isExact ha) (readsBack_of_isExact hb) bytes

/-- A text that went through, and comes back, goes through again, and then has its bytes. -/
theorem carry_back (hback : a.GivesBack b v.bytes) (hcarries : a.Carries b v.bytes) :
    b.Carries a (a.carry b v).bytes ∧ (b.carry a (a.carry b v)).bytes = v.bytes := by
  by_cases heq : a = b
  · subst heq
    rw [carry, if_pos rfl, carry, if_pos rfl]
    exact ⟨.inl rfl, rfl⟩
  · obtain ⟨stored, hstored⟩ := hcarries.resolve_left heq
    have hbytes : (a.carry b v).bytes = stored := by
      rw [carry, if_neg heq, bytes_recode hstored]
    have hreturn : b.convert a (a.carry b v).bytes = .ok v.bytes :=
      hbytes ▸ hback.resolve_left heq stored hstored
    exact ⟨.inr ⟨_, hreturn⟩, by rw [carry, if_neg (Ne.symm heq), bytes_recode hreturn]⟩

end Charset

/-! ### A stage -/

variable {p q : Pool} {source target a b : Charset}

/-- After a stage the same records hold texts. -/
theorem Pool.Recodes.textHolders_eq {keys : List Key}
    (h : p.Recodes (source.carry target) (p.textHolders keys) q)
    (hthere : ∀ i ∈ p.textHolders keys, ∃ r, p.find? i = some r) :
    q.textHolders keys = p.textHolders keys := by
  ext i
  constructor
  · rintro ⟨k, hk, ⟨rfl, hb⟩ | ⟨e, he, rfl⟩⟩
    · by_contra hout
      rw [h.value_outside hout] at hb
      exact hout ⟨k, hk, .inl ⟨rfl, hb⟩⟩
    · exact ⟨k, hk, .inr ⟨e, h.meta?_eq ▸ he, rfl⟩⟩
  · rintro ⟨k, hk, ⟨rfl, hb⟩ | ⟨e, he, rfl⟩⟩
    · have hin : k.id ∈ p.textHolders keys := ⟨k, hk, .inl ⟨rfl, hb⟩⟩
      refine ⟨k, hk, .inl ⟨rfl, ?_⟩⟩
      rw [h.value_inside hin (hthere _ hin)]
      rcases Charset.carry_cases source target (p.value k) with heq | hnew
      · rw [heq, hb]
      · exact hnew
    · exact ⟨k, hk, .inr ⟨e, h.meta?_eq ▸ he, rfl⟩⟩

namespace CharsetFilter

/-- **A stage goes through if every text does**, and then it carries each of them. -/
theorem convert_carries {keys : KeySet} (parent : Key) (source target : Charset)
    (hthere : ∀ i ∈ p.textHolders keys.toList, ∃ r, p.find? i = some r) :
    let done := convert p keys parent source target
    (done.1 ≠ .error ↔
      ∀ i ∈ p.textHolders keys.toList, source.Carries target (p.record i).value.bytes) ∧
    (done.1 ≠ .error →
      p.Recodes (source.carry target) (p.textHolders keys.toList) done.2) := by
  intro done
  by_cases heq : source = target
  · have hdone : done = (.noUpdate, p) := if_pos heq
    have hsame : source.carry target = id := funext fun v => if_pos heq
    rw [hdone, hsame]
    refine ⟨iff_of_true nofun fun _ _ => .inl heq, fun _ => ⟨rfl, fun i _ => ?_, fun _ _ => rfl⟩⟩
    rcases p.find? i with _ | r <;> rfl
  · have hcarry : source.carry target = source.recode target := funext fun v => if_neg heq
    rw [hcarry]
    rcases convert_cases parent heq hthere with
      ⟨t, fault, hfails, hdone⟩ | ⟨hall, hrecodes, hstatus⟩
    · have herror : done.1 = .error := congrArg Prod.fst hdone
      refine ⟨iff_of_false (fun hne => hne herror) fun hall => ?_, fun hne => absurd herror hne⟩
      obtain ⟨before, after, htexts, -⟩ := hfails.first
      have hmem : t ∈ p.textFields keys.toList := htexts ▸ by simp
      obtain ⟨stored, hstored⟩ :=
        (hall _ (Pool.mem_textHolders.mpr ⟨t, hmem, rfl⟩)).resolve_left heq
      have hfault := hfails.fault
      rw [Pool.value, hstored] at hfault
      cases hfault
    · refine ⟨iff_of_true ?_ fun i hi => .inr ?_, fun _ => hrecodes⟩
      · rcases hstatus with ⟨hs, -⟩ | ⟨hs, -⟩ <;> rw [hs] <;> decide
      · obtain ⟨t, ht, rfl⟩ := Pool.mem_textHolders.mp hi
        exact hall t ht

/-- **Two stages, there and back, leave all bytes as they were if every text comes back**, and only
then. -/
theorem convert_back {keys : KeySet} (parent parent' : Key)
    (hthere : ∀ i ∈ p.textHolders keys.toList, ∃ r, p.find? i = some r)
    (hdone : (convert p keys parent a b).1 ≠ .error) :
    let undone := convert (convert p keys parent a b).2 keys parent' b a
    (undone.1 ≠ .error ∧ ∀ i, (undone.2.record i).value.bytes = (p.record i).value.bytes) ↔
      ∀ i ∈ p.textHolders keys.toList, a.GivesBack b (p.record i).value.bytes := by
  obtain ⟨hcarries, hrecodes⟩ := convert_carries parent a b hthere
  have hgo := hcarries.mp hdone
  have hfirst := hrecodes hdone
  generalize (convert p keys parent a b).2 = q at hfirst
  have hholders := hfirst.textHolders_eq hthere
  have hthere' : ∀ i ∈ q.textHolders keys.toList, ∃ r, q.find? i = some r := fun i hi =>
    hfirst.exists_of_exists (hthere i (hholders ▸ hi))
  have hvalue : ∀ i ∈ p.textHolders keys.toList,
      (q.record i).value = a.carry b (p.record i).value := fun i hi => by
    rw [hfirst.record_inside hi (hthere i hi)]
  obtain ⟨hcarries', hrecodes'⟩ := convert_carries parent' b a hthere'
  intro undone
  rw [hholders] at hcarries' hrecodes'
  constructor
  · rintro ⟨hundone, hsame⟩ i hi
    by_cases heq : a = b
    · exact .inl heq
    refine .inr fun stored hstored => ?_
    have hbytes : (q.record i).value.bytes = stored := by
      rw [hvalue i hi, Charset.carry, if_neg heq, Charset.bytes_recode hstored]
    obtain ⟨bytes, hreturn⟩ := (hcarries'.mp hundone i hi).resolve_left (Ne.symm heq)
    have hlast : (undone.2.record i).value.bytes = bytes := by
      rw [(hrecodes' hundone).record_inside hi (hthere' i (hholders.symm ▸ hi)), Charset.carry,
        if_neg (Ne.symm heq), Charset.bytes_recode hreturn]
    rw [← hbytes, hreturn, ← hlast, hsame i]
  · intro hback
    have hundone : undone.1 ≠ .error := hcarries'.mpr fun i hi => by
      rw [hvalue i hi]
      exact (Charset.carry_back (hback i hi) (hgo i hi)).1
    refine ⟨hundone, fun i => ?_⟩
    by_cases hi : i ∈ p.textHolders keys.toList
    · rw [(hrecodes' hundone).record_inside hi (hthere' i (hholders.symm ▸ hi)), hvalue i hi]
      exact (Charset.carry_back (hback i hi) (hgo i hi)).2
    · rw [(hrecodes' hundone).record_outside hi, hfirst.record_outside hi]

end CharsetFilter

/-! ### Copies -/

namespace Pool

variable {p' q' : Pool} {keys copies : List Key} {k x y : Key}

/-- What an application reads of a key: its name, the bytes of its value, and those of its
comment. -/
def content (p : Pool) (k : Key) : Name × List UInt8 × Option (List UInt8) :=
  (p.name k, (p.value k).bytes, (p.meta? k "comment").map fun e => (p.value e).bytes)

/-- The entries of keys that say the same have the same values. -/
theorem Forward.meta?_of_tree (hq : q.Forward) (hp : p.Forward) (h : q.tree y.id = p.tree x.id)
    (raw : String) : (q.meta? y raw).map q.value = (p.meta? x raw).map p.value := by
  rw [meta?, meta?]
  rcases metaName raw with cause | n
  · rfl
  · simp only [entries, hq.get?_tree, hp.get?_tree, h]

/-- The texts of keys went through a stage from `p` to `q`, and from there all that the keys say
went to copies of some of them, which are in no metadata. -/
structure Carried (a b : Charset) (keys copies : List Key) (p q p' : Pool) : Prop where
  carries : ∀ i ∈ p.textHolders keys, a.Carries b (p.record i).value.bytes
  recodes : p.Recodes (a.carry b) (p.textHolders keys) q
  there : ∀ i ∈ p.textHolders keys, ∃ r, p.find? i = some r
  forward : q.Forward
  forward' : p'.Forward
  copied : ∀ y ∈ copies, ∃ x ∈ keys, p'.tree y.id = q.tree x.id
  unentered : ∀ y ∈ copies, p'.Unentered y.id

namespace Carried

/-- A value of a key went through the stage, unless it was binary. -/
theorem value_cases (h : Carried a b keys copies p q p') (hx : x ∈ keys) :
    x.id ∈ p.textHolders keys ∧ q.value x = a.carry b (p.value x) ∨
      (q.value x).binary = true ∧ q.value x = p.value x := by
  by_cases hin : x.id ∈ p.textHolders keys
  · exact .inl ⟨hin, h.recodes.value_inside hin (h.there _ hin)⟩
  · have hsame := h.recodes.value_outside hin
    rcases hb : (p.value x).binary with _ | _
    · exact absurd ⟨x, hx, .inl ⟨rfl, hb⟩⟩ hin
    · exact .inr ⟨hsame ▸ hb, hsame⟩

/-- A copy has the value that the key had after the stage. -/
theorem value_copy (h : Carried a b keys copies p q p') (htree : p'.tree y.id = q.tree x.id) :
    p'.value y = q.value x := by
  rw [value, ← h.forward'.value_tree, htree, h.forward.value_tree, value]

/-- A copy that is binary holds no text. -/
theorem notMem_textHolders (h : Carried a b keys copies p q p') (hy : y ∈ copies)
    (hb : (p'.value y).binary = true) : y.id ∉ p'.textHolders copies := by
  rintro ⟨k, -, ⟨heq, hb'⟩ | ⟨e, he, heq⟩⟩
  · rw [value, heq, ← value, hb] at hb'
    cases hb'
  · exact h.unentered y hy k.id e (mem_entries_of_meta? he) heq

/-- A comment went through the stage. -/
theorem comments (h : Carried a b keys copies p q p') (hx : x ∈ keys) :
    (q.meta? x "comment").map q.value
      = (p.meta? x "comment").map fun e => a.carry b (p.value e) := by
  rw [h.recodes.meta?_eq]
  refine Option.map_congr fun e he => ?_
  have hin : e.id ∈ p.textHolders keys := ⟨x, hx, .inr ⟨e, he, rfl⟩⟩
  exact h.recodes.value_inside hin (h.there _ hin)

/-- **The texts of the copies go through on the way back**, if every text comes back. -/
theorem carries_back (h : Carried a b keys copies p q p')
    (hback : ∀ bytes, a.GivesBack b bytes) :
    ∀ i ∈ p'.textHolders copies, b.Carries a (p'.record i).value.bytes := by
  rintro i ⟨y, hy, ⟨rfl, hb⟩ | ⟨e, he, rfl⟩⟩ <;> obtain ⟨x, hx, htree⟩ := h.copied y hy
  · have hvalue := h.value_copy htree
    rcases h.value_cases hx with ⟨hin, hcarried⟩ | ⟨hb', -⟩
    · change b.Carries a (p'.value y).bytes
      rw [hvalue, hcarried]
      exact (Charset.carry_back (hback _) (h.carries _ hin)).1
    · rw [← hvalue, hb] at hb'
      cases hb'
  · have hcomments := (h.forward'.meta?_of_tree h.forward htree "comment").trans (h.comments hx)
    rw [he, Option.map_some, eq_comm, Option.map_eq_some_iff] at hcomments
    obtain ⟨e', he', heq⟩ := hcomments
    change b.Carries a (p'.value e).bytes
    rw [← heq]
    exact (Charset.carry_back (hback _) (h.carries _ ⟨x, hx, .inr ⟨e', he', rfl⟩⟩)).1

/-- **A copy has what the key had before**, after the stage on the way back. -/
theorem content_eq (h : Carried a b keys copies p q p') (hback : ∀ bytes, a.GivesBack b bytes)
    (hrecodes : p'.Recodes (b.carry a) (p'.textHolders copies) q')
    (hthere : ∀ i ∈ p'.textHolders copies, ∃ r, p'.find? i = some r) (hy : y ∈ copies)
    (hx : x ∈ keys) (htree : p'.tree y.id = q.tree x.id) : q'.content y = p.content x := by
  have hname : q'.name y = p.name x := by
    rw [hrecodes.name_eq, name, ← name_tree, htree, name_tree, (h.recodes.record_kept x.id).1, name]
  have hvalue : (q'.value y).bytes = (p.value x).bytes := by
    have hcopy := h.value_copy htree
    rcases hb : (p'.value y).binary with _ | _
    · have hin : y.id ∈ p'.textHolders copies := ⟨y, hy, .inl ⟨rfl, hb⟩⟩
      rw [hrecodes.value_inside hin (hthere _ hin), hcopy]
      rcases h.value_cases hx with ⟨hcarried, heq⟩ | ⟨hb', -⟩
      · rw [heq]
        exact (Charset.carry_back (hback _) (h.carries _ hcarried)).2
      · rw [← hcopy, hb] at hb'
        cases hb'
    · -- the copy is binary, and no comment
      rw [hrecodes.value_outside (h.notMem_textHolders hy hb), hcopy]
      rw [hcopy] at hb
      rcases h.value_cases hx with ⟨-, heq⟩ | ⟨-, heq⟩
      · rw [heq] at hb ⊢
        rcases Charset.carry_cases a b (p.value x) with hsame | hnew
        · rw [hsame]
        · rw [hnew] at hb
          cases hb
      · rw [heq]
  have hcomment : (q'.meta? y "comment").map (fun e => (q'.value e).bytes)
      = (p.meta? x "comment").map fun e => (p.value e).bytes := by
    calc (q'.meta? y "comment").map (fun e => (q'.value e).bytes)
        = (p'.meta? y "comment").map fun e => (b.carry a (p'.value e)).bytes := by
          rw [hrecodes.meta?_eq]
          refine Option.map_congr fun e he => ?_
          have hin : e.id ∈ p'.textHolders copies := ⟨y, hy, .inr ⟨e, he, rfl⟩⟩
          rw [hrecodes.value_inside hin (hthere _ hin)]
      _ = ((p'.meta? y "comment").map p'.value).map fun v => (b.carry a v).bytes :=
          (Option.map_map (fun v => (b.carry a v).bytes) p'.value _).symm
      _ = ((p.meta? x "comment").map fun e => a.carry b (p.value e)).map
            fun v => (b.carry a v).bytes := by
          rw [h.forward'.meta?_of_tree h.forward htree, h.comments hx]
      _ = (p.meta? x "comment").map fun e => (p.value e).bytes := by
          rw [Option.map_map]
          refine Option.map_congr fun e he => ?_
          exact (Charset.carry_back (hback _) (h.carries _ ⟨x, hx, .inr ⟨e, he, rfl⟩⟩)).2
  rw [content, content, hname, hvalue, hcomment]

end Carried
end Pool
end ConfigKeys
