import Pyvrs.Foundations.PlacedList
import Pyvrs.Reader.StreamPlayer

/-!
# The content blocks of a record

Every callback of a player reads one block and adds it to the cache: a metadata block is appended,
and another block is placed in the list of its kind at the position that it has in the record. A
record read into an empty cache keeps all its blocks unless the first two are of one kind, and not
metadata (`play_cache_eq_iff`). Of records of one layout that are read one after the other into a
cache, only the last one is left when there is no metadata block and every other block has a
position that divides the number of records before (`playRounds_ofCache_eq_iff`).
-/

namespace Pyvrs

open Foundations

/-- The content blocks other than metadata, by the callback they are given to. -/
inductive BlockKind
  | image
  | audio
  | custom
  | unsupported
  deriving DecidableEq, Repr

variable {L : VrsLib}

namespace Callback

/-- The kind of block, `none` for metadata. -/
def kind : Callback L → Option BlockKind
  | .dataLayout _ _ => none
  | .image _ _ _ => some .image
  | .audio _ _ _ => some .audio
  | .custom _ _ _ => some .custom
  | .unsupported _ _ _ => some .unsupported

/-- The position that the callback is made with. -/
def blockIndex : Callback L → ℕ
  | .dataLayout i _ => i
  | .image i _ _ => i
  | .audio i _ _ => i
  | .custom i _ _ => i
  | .unsupported i _ _ => i

/-- The size of the block is known. -/
def sizeKnown : Callback L → Bool
  | .dataLayout _ _ => true
  | .image _ cb _ => cb.blockSize.isSome
  | .audio _ cb _ => cb.blockSize.isSome
  | .custom _ cb _ => cb.blockSize.isSome
  | .unsupported _ cb _ => cb.blockSize.isSome

/-- The answer to the callback: the next block is wanted. -/
def more (settings : PlayerSettings) (c : Callback L) : Bool :=
  c.sizeKnown && settings.checkSkipTrailingBlocks c.blockIndex

/-- The metadata that the callback is made with. -/
def dataLayout? : Callback L → Option L.DataLayout
  | .dataLayout _ dl => some dl
  | _ => none

/-- What tells the layouts of two records apart. -/
def layout (c : Callback L) : ℕ × Option BlockKind × Bool := (c.blockIndex, c.kind, c.sizeKnown)

end Callback

/-- The callbacks that are made: up to the first one after which the next block is not wanted. -/
def visited (settings : PlayerSettings) : List (Callback L) → List (Callback L)
  | [] => []
  | c :: cs => c :: if c.more settings then visited settings cs else []

/-- The positions of the blocks of one kind, or of the metadata. -/
def positions (kind : Option BlockKind) (cs : List (Callback L)) : List ℕ :=
  (cs.filter (·.kind = kind)).map Callback.blockIndex

/-- A block as it is read: a block that is not metadata with its position. -/
inductive ReadBlock (L : VrsLib)
  | dataLayout (block : L.PyDict)
  | content (blockIndex : ℕ) (kind : BlockKind) (block : ContentBlockBuffer L)

namespace ReadBlock

/-- The dictionary of a metadata block. -/
def dict : ReadBlock L → Option L.PyDict
  | .dataLayout block => some block
  | .content _ _ _ => none

/-- A block of one kind, with its position. -/
def ofKind (kind : BlockKind) : ReadBlock L → Option (ℕ × ContentBlockBuffer L)
  | .dataLayout _ => none
  | .content i kind' block => if kind' = kind then some (i, block) else none

end ReadBlock

namespace BaseVRSReaderStreamPlayer

variable (player : BaseVRSReaderStreamPlayer L) (settings : PlayerSettings)
  (record : CurrentRecord)

/-- The block that `setBlock` appends, and the player after it. -/
def readContent (contentBlock : ContentBlock L) (reader : BlockReader) :
    ContentBlockBuffer L × BaseVRSReaderStreamPlayer L :=
  match contentBlock.blockSize with
  | none => (.ofBlock contentBlock, player)
  | some 0 => (.ofBlock contentBlock, player)
  | some (size + 1) =>
    player.readBlock settings.imageConversion record contentBlock (size + 1) reader

theorem setBlock_eq (blocks : List (ContentBlockBuffer L)) (blockIndex : ℕ)
    (contentBlock : ContentBlock L) (reader : BlockReader) :
    player.setBlock settings blocks record blockIndex contentBlock reader =
      (contentBlock.blockSize.isSome && settings.checkSkipTrailingBlocks blockIndex,
        place blocks (blockIndex, (player.readContent settings record contentBlock reader).1),
        (player.readContent settings record contentBlock reader).2) := by
  unfold setBlock readContent place
  cases contentBlock.blockSize with
  | none => rfl
  | some size => cases size <;> rfl

/-- The block of a callback as it is read, and the player after it. -/
def read : Callback L → ReadBlock L × BaseVRSReaderStreamPlayer L
  | .dataLayout _ dl =>
    (.dataLayout (L.dataLayoutToPyDict dl settings.encoding),
      if record.recordType = .configuration then player.captureNormalizeOptionsConfig record dl
      else player)
  | .image i cb reader =>
    (player.readContent settings record cb reader).map (.content i .image) id
  | .audio i cb reader =>
    (player.readContent settings record cb reader).map (.content i .audio) id
  | .custom i cb reader =>
    (player.readContent settings record cb reader).map (.content i .custom) id
  | .unsupported i cb reader =>
    (player.readContent settings record cb reader).map (.content i .unsupported) id

/-- The blocks of callbacks as they are read. -/
def readBlocks : BaseVRSReaderStreamPlayer L → List (Callback L) → List (ReadBlock L)
  | _, [] => []
  | player, c :: cs =>
    (player.read settings record c).1 :: readBlocks (player.read settings record c).2 cs

end BaseVRSReaderStreamPlayer

namespace RecordCache

/-- The list of one kind. -/
def blocks (cache : RecordCache L) : BlockKind → List (ContentBlockBuffer L)
  | .image => cache.images
  | .audio => cache.audioBlocks
  | .custom => cache.customBlocks
  | .unsupported => cache.unsupportedBlocks

/-- A cache that holds exactly the given blocks, in their order. -/
def ofBlocks (version : ℕ) (blocks : List (ReadBlock L)) : RecordCache L where
  recordFormatVersion := version
  datalayoutBlocks := blocks.filterMap ReadBlock.dict
  images := (blocks.filterMap (ReadBlock.ofKind .image)).map Prod.snd
  audioBlocks := (blocks.filterMap (ReadBlock.ofKind .audio)).map Prod.snd
  customBlocks := (blocks.filterMap (ReadBlock.ofKind .custom)).map Prod.snd
  unsupportedBlocks := (blocks.filterMap (ReadBlock.ofKind .unsupported)).map Prod.snd

/-- The cache after a block is added. -/
def add (cache : RecordCache L) : ReadBlock L → RecordCache L
  | .dataLayout block => { cache with datalayoutBlocks := cache.datalayoutBlocks ++ [block] }
  | .content i .image block => { cache with images := place cache.images (i, block) }
  | .content i .audio block => { cache with audioBlocks := place cache.audioBlocks (i, block) }
  | .content i .custom block => { cache with customBlocks := place cache.customBlocks (i, block) }
  | .content i .unsupported block =>
    { cache with unsupportedBlocks := place cache.unsupportedBlocks (i, block) }

theorem eq_iff {cache cache' : RecordCache L} : cache = cache' ↔
    cache.recordFormatVersion = cache'.recordFormatVersion ∧
      cache.datalayoutBlocks = cache'.datalayoutBlocks ∧
      ∀ kind, cache.blocks kind = cache'.blocks kind := by
  constructor
  · rintro rfl
    exact ⟨rfl, rfl, fun _ => rfl⟩
  · rintro ⟨hversion, hdata, hblocks⟩
    exact RecordCache.ext hversion hdata (hblocks .image) (hblocks .audio) (hblocks .custom)
      (hblocks .unsupported)

theorem blocks_ofBlocks (version : ℕ) (blocks : List (ReadBlock L)) (kind : BlockKind) :
    (ofBlocks version blocks).blocks kind =
      (blocks.filterMap (ReadBlock.ofKind kind)).map Prod.snd := by
  cases kind <;> rfl

theorem blocks_empty (version : ℕ) (kind : BlockKind) :
    (empty version : RecordCache L).blocks kind = [] := by
  cases kind <;> rfl

theorem blocks_add (cache : RecordCache L) (block : ReadBlock L) (kind : BlockKind) :
    (cache.add block).blocks kind =
      placeAll (cache.blocks kind) (block.ofKind kind).toList := by
  cases block with
  | dataLayout block => cases kind <;> rfl
  | content i kind' block => cases kind <;> cases kind' <;> rfl

theorem datalayoutBlocks_add (cache : RecordCache L) (block : ReadBlock L) :
    (cache.add block).datalayoutBlocks = cache.datalayoutBlocks ++ block.dict.toList := by
  cases block with
  | dataLayout block => rfl
  | content i kind block => cases kind <;> exact (List.append_nil _).symm

theorem recordFormatVersion_add (cache : RecordCache L) (block : ReadBlock L) :
    (cache.add block).recordFormatVersion = cache.recordFormatVersion := by
  cases block with
  | dataLayout block => rfl
  | content i kind block => cases kind <;> rfl

/-- The cache after blocks are added in order. -/
def addAll (cache : RecordCache L) (blocks : List (ReadBlock L)) : RecordCache L :=
  blocks.foldl add cache

theorem blocks_addAll (cache : RecordCache L) (blocks : List (ReadBlock L)) (kind : BlockKind) :
    (cache.addAll blocks).blocks kind =
      placeAll (cache.blocks kind) (blocks.filterMap (ReadBlock.ofKind kind)) := by
  induction blocks generalizing cache with
  | nil => rfl
  | cons block blocks ih =>
    have hcons : (block :: blocks).filterMap (ReadBlock.ofKind kind) =
        (block.ofKind kind).toList ++ blocks.filterMap (ReadBlock.ofKind kind) := by
      rw [List.filterMap_cons]
      cases block.ofKind kind <;> rfl
    rw [hcons, placeAll_append, ← blocks_add]
    exact ih _

theorem datalayoutBlocks_addAll (cache : RecordCache L) (blocks : List (ReadBlock L)) :
    (cache.addAll blocks).datalayoutBlocks =
      cache.datalayoutBlocks ++ blocks.filterMap ReadBlock.dict := by
  induction blocks generalizing cache with
  | nil => exact (List.append_nil _).symm
  | cons block blocks ih =>
    have hcons : (block :: blocks).filterMap ReadBlock.dict =
        block.dict.toList ++ blocks.filterMap ReadBlock.dict := by
      rw [List.filterMap_cons]
      cases block.dict <;> rfl
    rw [hcons, ← List.append_assoc, ← datalayoutBlocks_add]
    exact ih _

theorem recordFormatVersion_addAll (cache : RecordCache L) (blocks : List (ReadBlock L)) :
    (cache.addAll blocks).recordFormatVersion = cache.recordFormatVersion := by
  induction blocks generalizing cache with
  | nil => rfl
  | cons block blocks ih => exact (ih _).trans (recordFormatVersion_add cache block)

end RecordCache

/-! ## Playing a record -/

section Play

variable (settings : PlayerSettings) (record : CurrentRecord)

/-- **What a callback does**: it adds the block that it reads to the cache. -/
theorem Playing.onCallback_eq (st : Playing L) (c : Callback L) :
    st.onCallback settings record c =
      (c.more settings, ⟨st.cache.add (st.player.read settings record c).1,
        (st.player.read settings record c).2⟩) := by
  cases c with
  | dataLayout i dl =>
    unfold Callback.more
    rw [show (Callback.dataLayout i dl).sizeKnown = true from rfl, Bool.true_and]
    rfl
  | image i cb reader =>
    simp only [onCallback, onImageRead, BaseVRSReaderStreamPlayer.setBlock_eq]
    rfl
  | audio i cb reader =>
    simp only [onCallback, onAudioRead, BaseVRSReaderStreamPlayer.setBlock_eq]
    rfl
  | custom i cb reader =>
    simp only [onCallback, onCustomBlockRead, BaseVRSReaderStreamPlayer.setBlock_eq]
    rfl
  | unsupported i cb reader =>
    simp only [onCallback, onUnsupportedBlock, BaseVRSReaderStreamPlayer.setBlock_eq]
    rfl

theorem Playing.cache_onCallbacks (st : Playing L) (cs : List (Callback L)) :
    (st.onCallbacks settings record cs).cache =
      st.cache.addAll (st.player.readBlocks settings record (visited settings cs)) := by
  induction cs generalizing st with
  | nil => rfl
  | cons c cs ih =>
    rw [onCallbacks_cons, onCallback_eq, visited]
    by_cases hmore : c.more settings
    · rw [if_pos hmore, if_pos hmore, ih]
      rfl
    · rw [if_neg hmore, if_neg hmore]
      rfl

/-- **What a record read does**: the blocks of the callbacks made are added to the cache. -/
theorem Playing.cache_play (st : Playing L) (cs : List (Callback L)) :
    (st.play settings record cs).cache =
      { st.cache with recordFormatVersion := record.formatVersion }.addAll
        (st.player.readBlocks settings record (visited settings cs)) :=
  cache_onCallbacks settings record (st.processRecordHeader record) cs

theorem isPrefix_visited (cs : List (Callback L)) : visited settings cs <+: cs := by
  induction cs with
  | nil => exact List.prefix_refl _
  | cons c cs ih =>
    rw [visited]
    by_cases hmore : c.more settings
    · rw [if_pos hmore]
      exact (List.prefix_cons_inj c).2 ih
    · rw [if_neg hmore]
      exact ⟨cs, rfl⟩

theorem visited_eq_self {settings : PlayerSettings}
    (hlimit : settings.firstSkippedTrailingBlockIndex = none) {cs : List (Callback L)}
    (hsizes : ∀ c ∈ cs, c.sizeKnown) : visited settings cs = cs := by
  induction cs with
  | nil => rfl
  | cons c cs ih =>
    rw [List.forall_mem_cons] at hsizes
    have hmore : c.more settings := by
      unfold Callback.more PlayerSettings.checkSkipTrailingBlocks
      rw [hlimit, hsizes.1]
      rfl
    rw [visited, if_pos hmore, ih hsizes.2]

/-- The blocks read of one kind are at the positions of the callbacks of that kind. -/
theorem map_fst_ofKind_readBlocks (kind : BlockKind) (player : BaseVRSReaderStreamPlayer L)
    (cs : List (Callback L)) :
    ((player.readBlocks settings record cs).filterMap (ReadBlock.ofKind kind)).map Prod.fst =
      positions (some kind) cs := by
  induction cs generalizing player with
  | nil => rfl
  | cons c cs ih =>
    rw [BaseVRSReaderStreamPlayer.readBlocks, List.filterMap_cons, positions, List.filter_cons]
    have hread : ((player.read settings record c).1.ofKind kind).map Prod.fst =
        if c.kind = some kind then some c.blockIndex else none := by
      cases c <;> cases kind <;> rfl
    by_cases hkind : c.kind = some kind
    · rw [if_pos hkind, Option.map_eq_some_iff] at hread
      obtain ⟨q, hq, hposition⟩ := hread
      rw [hq, if_pos (decide_eq_true hkind), List.map_cons, List.map_cons, ih, hposition]
      rfl
    · rw [if_neg hkind, Option.map_eq_none_iff] at hread
      rw [hread, if_neg (by simpa using hkind), ih]
      rfl

/-- The metadata blocks read are those of the callbacks, in the encoding of the reader. -/
theorem dict_readBlocks (player : BaseVRSReaderStreamPlayer L) (cs : List (Callback L)) :
    (player.readBlocks settings record cs).filterMap ReadBlock.dict =
      (cs.filterMap Callback.dataLayout?).map fun dl =>
        L.dataLayoutToPyDict dl settings.encoding := by
  induction cs generalizing player with
  | nil => rfl
  | cons c cs ih =>
    have hcs := ih (player.read settings record c).2
    rw [BaseVRSReaderStreamPlayer.readBlocks, List.filterMap_cons, List.filterMap_cons]
    cases c with
    | dataLayout i dl => exact congrArg (L.dataLayoutToPyDict dl settings.encoding :: ·) hcs
    | image i cb reader => exact hcs
    | audio i cb reader => exact hcs
    | custom i cb reader => exact hcs
    | unsupported i cb reader => exact hcs

/-- There are as many metadata blocks read as callbacks for them. -/
theorem length_dict_readBlocks (player : BaseVRSReaderStreamPlayer L) (cs : List (Callback L)) :
    ((player.readBlocks settings record cs).filterMap ReadBlock.dict).length =
      (positions none cs).length := by
  rw [dict_readBlocks, List.length_map, positions, List.length_map,
    List.length_filterMap_eq_countP, ← List.countP_eq_length_filter]
  refine List.countP_congr fun c _ => ?_
  cases c <;> simp [Callback.dataLayout?, Callback.kind]

theorem Playing.blocks_play (st : Playing L) (cs : List (Callback L)) (kind : BlockKind) :
    (st.play settings record cs).cache.blocks kind =
      placeAll (st.cache.blocks kind)
        ((st.player.readBlocks settings record (visited settings cs)).filterMap
          (ReadBlock.ofKind kind)) := by
  rw [cache_play, RecordCache.blocks_addAll]
  cases kind <;> rfl

theorem Playing.datalayoutBlocks_play (st : Playing L) (cs : List (Callback L)) :
    (st.play settings record cs).cache.datalayoutBlocks =
      st.cache.datalayoutBlocks ++
        (st.player.readBlocks settings record (visited settings cs)).filterMap
          ReadBlock.dict := by
  rw [cache_play, RecordCache.datalayoutBlocks_addAll]

end Play

/-! ## One record -/

/-- The first two blocks are of one kind, and not metadata. -/
def FirstTwoAlike : List (Callback L) → Prop
  | a :: b :: _ => a.kind ≠ none ∧ a.kind = b.kind
  | _ => False

/-- The callbacks are made in block order, each with the position of its block. -/
def InBlockOrder (cs : List (Callback L)) : Prop :=
  cs.map Callback.blockIndex = List.range cs.length

theorem InBlockOrder.pairwise_positions {cs : List (Callback L)} (h : InBlockOrder cs)
    (kind : Option BlockKind) : (positions kind cs).Pairwise (· < ·) := by
  refine List.Pairwise.sublist (List.filter_sublist.map _) ?_
  rw [h]
  exact List.pairwise_lt_range

theorem exists_of_mem_positions {cs : List (Callback L)} {kind : Option BlockKind} {i : ℕ}
    (h : i ∈ positions kind cs) :
    ∃ c ∈ cs, c.kind = kind ∧ c.blockIndex = i := by
  obtain ⟨c, hc, hposition⟩ := List.mem_map.1 h
  obtain ⟨hcs, hkind⟩ := List.mem_filter.1 hc
  exact ⟨c, hcs, of_decide_eq_true hkind, hposition⟩

theorem mem_positions {cs : List (Callback L)} {c : Callback L} (h : c ∈ cs) :
    c.blockIndex ∈ positions c.kind cs :=
  List.mem_map_of_mem (List.mem_filter.2 ⟨h, decide_eq_true rfl⟩)

/-- The callbacks of one kind start with the positions `0` and `1` exactly for that kind. -/
theorem InBlockOrder.firstTwoAlike_iff {cs : List (Callback L)} (h : InBlockOrder cs) :
    FirstTwoAlike cs ↔ ∃ kind, [0, 1] <+: positions (some kind) cs := by
  match cs, h with
  | [], _ => simp [FirstTwoAlike, positions]
  | [a], h =>
    refine iff_of_false id ?_
    rintro ⟨kind, hpair⟩
    obtain ⟨c, hc, -, hone⟩ := exists_of_mem_positions (hpair.subset (by simp : 1 ∈ [0, 1]))
    rw [List.mem_singleton.1 hc] at hone
    simp [InBlockOrder, hone] at h
  | a :: b :: rest, h =>
    unfold InBlockOrder at h
    rw [List.length_cons, List.length_cons, List.range_succ_eq_map, List.range_succ_eq_map] at h
    simp only [List.map_cons, List.map_map, List.cons.injEq] at h
    obtain ⟨ha, hb, hrest⟩ := h
    have hbeyond : ∀ c ∈ rest, 2 ≤ c.blockIndex := by
      intro c hc
      have hposition := List.mem_map_of_mem (f := Callback.blockIndex) hc
      rw [hrest, List.mem_map] at hposition
      obtain ⟨j, -, hj⟩ := hposition
      rw [← hj]
      exact Nat.le_add_left 2 j
    constructor
    · rintro ⟨hne, halike⟩
      obtain ⟨kind, hkind⟩ := Option.ne_none_iff_exists'.1 hne
      refine ⟨kind, ?_⟩
      rw [positions, List.filter_cons_of_pos (by simp [hkind]),
        List.filter_cons_of_pos (by simp [← halike, hkind]), List.map_cons, List.map_cons, ha, hb]
      exact ⟨_, rfl⟩
    · rintro ⟨kind, hpair⟩
      have hfirst : a.kind = some kind := by
        obtain ⟨c, hc, hkind, hzero⟩ :=
          exists_of_mem_positions (hpair.subset (by simp : 0 ∈ [0, 1]))
        rcases List.mem_cons.1 hc with rfl | hc
        · exact hkind
        rcases List.mem_cons.1 hc with rfl | hc
        · simp [hzero] at hb
        · have := hbeyond c hc
          omega
      have hsecond : b.kind = some kind := by
        obtain ⟨c, hc, hkind, hone⟩ :=
          exists_of_mem_positions (hpair.subset (by simp : 1 ∈ [0, 1]))
        rcases List.mem_cons.1 hc with rfl | hc
        · omega
        rcases List.mem_cons.1 hc with rfl | hc
        · exact hkind
        · have := hbeyond c hc
          omega
      exact ⟨by simp [hfirst], hfirst.trans hsecond.symm⟩

/-- The blocks added to a cache without blocks are all there unless the first two are alike. -/
theorem addAll_eq_ofBlocks_iff {settings : PlayerSettings} {record : CurrentRecord}
    (player : BaseVRSReaderStreamPlayer L) {cs : List (Callback L)} (horder : InBlockOrder cs)
    (version : ℕ) :
    (RecordCache.empty version).addAll (player.readBlocks settings record cs) =
        .ofBlocks version (player.readBlocks settings record cs) ↔ ¬FirstTwoAlike cs := by
  rw [RecordCache.eq_iff, horder.firstTwoAlike_iff, not_exists,
    RecordCache.recordFormatVersion_addAll, RecordCache.datalayoutBlocks_addAll]
  have hkind : ∀ kind,
      ((RecordCache.empty version).addAll (player.readBlocks settings record cs)).blocks kind =
        (RecordCache.ofBlocks version (player.readBlocks settings record cs)).blocks kind ↔
      ¬[0, 1] <+: positions (some kind) cs := by
    intro kind
    rw [RecordCache.blocks_addAll, RecordCache.blocks_empty, RecordCache.blocks_ofBlocks,
      placeAll_nil_eq_map_iff, map_fst_ofKind_readBlocks]
    rw [map_fst_ofKind_readBlocks]
    exact horder.pairwise_positions (some kind)
  simp only [hkind]
  exact ⟨fun h => h.2.2, fun h => ⟨rfl, rfl, h⟩⟩

/-- **No content block is lost inside a record, unless its first two blocks are of one kind and not
metadata**: read into a cache without blocks, by callbacks in block order, with sizes that are known
and no limit on trailing blocks, a record leaves exactly its blocks there, in order. -/
theorem play_cache_eq_iff (settings : PlayerSettings)
    (hlimit : settings.firstSkippedTrailingBlockIndex = none) (record : CurrentRecord)
    (st : Playing L) (hempty : st.cache.NoBlocks) (cs : List (Callback L))
    (horder : InBlockOrder cs) (hsizes : ∀ c ∈ cs, c.sizeKnown) :
    (st.play settings record cs).cache =
        .ofBlocks record.formatVersion (st.player.readBlocks settings record cs) ↔
      ¬FirstTwoAlike cs := by
  have hcache : { st.cache with recordFormatVersion := record.formatVersion } =
      RecordCache.empty record.formatVersion := by
    rw [hempty]
    rfl
  rw [Playing.cache_play, visited_eq_self hlimit hsizes, hcache]
  exact addAll_eq_ofBlocks_iff st.player horder record.formatVersion

/-- A raw image of one pixel. -/
def pixelAt (blockIndex : ℕ) : Callback .bare :=
  .image blockIndex (.ofImage .bare ⟨.raw, .grey8, 1, 1⟩ (some 1))
    ⟨1, fun n => List.replicate n 0, none⟩

/-- A data record. -/
def dataRecord : CurrentRecord := ⟨⟨1201, 1⟩, .data, 1⟩

/-- Texts are read as UTF-8, images are not converted, and all blocks are read. -/
def plainSettings : PlayerSettings := ⟨"utf-8", .off, none⟩

theorem play_cache_eq_iff_of_metadataBetween :
    ((⟨.empty 0, .new⟩ : Playing .bare).play plainSettings dataRecord
        [pixelAt 0, .dataLayout 1 (), pixelAt 2]).cache =
        .ofBlocks 1 (BaseVRSReaderStreamPlayer.new.readBlocks plainSettings dataRecord
          [pixelAt 0, .dataLayout 1 (), pixelAt 2]) ↔
      ¬FirstTwoAlike [pixelAt 0, .dataLayout 1 (), pixelAt 2] :=
  play_cache_eq_iff plainSettings rfl dataRecord ⟨.empty 0, .new⟩ rfl
    [pixelAt 0, .dataLayout 1 (), pixelAt 2] rfl (by simp [pixelAt, Callback.sizeKnown,
      ContentBlock.ofImage])

/-- Of two images, the second one takes the place of the first. -/
theorem not_play_cache_eq :
    ((⟨.empty 0, .new⟩ : Playing .bare).play plainSettings dataRecord
        [pixelAt 0, pixelAt 1]).cache ≠
      .ofBlocks 1 (BaseVRSReaderStreamPlayer.new.readBlocks plainSettings dataRecord
        [pixelAt 0, pixelAt 1]) := by
  intro h
  have hlengths := congrArg (fun cache => cache.images.length) h
  exact absurd hlengths (by decide)

/-! ## Records read one after the other -/

section Rounds

variable (settings : PlayerSettings)

/-- Records read with no reset of the cache in between. -/
def Playing.playRounds (st : Playing L) (rounds : List (CurrentRecord × List (Callback L))) :
    Playing L :=
  rounds.foldl (fun st round => st.play settings round.1 round.2) st

/-- The blocks that these reads add to the cache. -/
def Playing.readRounds : Playing L → List (CurrentRecord × List (Callback L)) →
    List (ReadBlock L)
  | _, [] => []
  | st, (record, cs) :: rounds =>
    st.player.readBlocks settings record (visited settings cs) ++
      readRounds (st.play settings record cs) rounds

variable {settings}

/-- Records of one layout are read up to the same block. -/
theorem map_layout_visited {cs cs' : List (Callback L)}
    (h : cs'.map Callback.layout = cs.map Callback.layout) :
    (visited settings cs').map Callback.layout = (visited settings cs).map Callback.layout := by
  induction cs generalizing cs' with
  | nil =>
    rw [List.map_nil, List.map_eq_nil_iff] at h
    rw [h]
  | cons c cs ih =>
    rw [List.map_cons, List.map_eq_cons_iff] at h
    obtain ⟨c', cs₁, rfl, hc, hcs⟩ := h
    have hmore : c'.more settings = c.more settings := by
      have hindex : c'.blockIndex = c.blockIndex := congrArg Prod.fst hc
      have hsize : c'.sizeKnown = c.sizeKnown := congrArg (·.2.2) hc
      rw [Callback.more, Callback.more, hindex, hsize]
    rw [visited, visited, List.map_cons, List.map_cons, hc, hmore]
    by_cases hwanted : c.more settings
    · rw [if_pos hwanted, if_pos hwanted, ih hcs]
    · rw [if_neg hwanted, if_neg hwanted]

theorem positions_of_layout {cs cs' : List (Callback L)} (kind : Option BlockKind)
    (h : cs'.map Callback.layout = cs.map Callback.layout) :
    positions kind cs' = positions kind cs := by
  have hlayout : ∀ cs : List (Callback L), positions kind cs =
      ((cs.map Callback.layout).filter (·.2.1 = kind)).map Prod.fst := by
    intro cs
    rw [List.filter_map, List.map_map]
    rfl
  rw [hlayout, hlayout, h]

variable (settings)

theorem Playing.blocks_playRounds (st : Playing L)
    (rounds : List (CurrentRecord × List (Callback L))) (kind : BlockKind) :
    (st.playRounds settings rounds).cache.blocks kind =
      placeAll (st.cache.blocks kind)
        ((st.readRounds settings rounds).filterMap (ReadBlock.ofKind kind)) := by
  induction rounds generalizing st with
  | nil => rfl
  | cons round rounds ih =>
    obtain ⟨record, cs⟩ := round
    rw [readRounds, List.filterMap_append, placeAll_append, ← blocks_play]
    exact ih _

theorem Playing.datalayoutBlocks_playRounds (st : Playing L)
    (rounds : List (CurrentRecord × List (Callback L))) :
    (st.playRounds settings rounds).cache.datalayoutBlocks =
      st.cache.datalayoutBlocks ++ (st.readRounds settings rounds).filterMap ReadBlock.dict := by
  induction rounds generalizing st with
  | nil => exact (List.append_nil _).symm
  | cons round rounds ih =>
    obtain ⟨record, cs⟩ := round
    rw [readRounds, List.filterMap_append, ← List.append_assoc, ← datalayoutBlocks_play]
    exact ih _

section Layout

variable {cs : List (Callback L)} {rounds : List (CurrentRecord × List (Callback L))}
  (hlayout : ∀ round ∈ rounds, round.2.map Callback.layout = cs.map Callback.layout)

include hlayout

/-- Each of the records puts its blocks of a kind at the positions that they have in the layout. -/
theorem Playing.map_fst_ofKind_readRounds (st : Playing L) (kind : BlockKind) :
    ((st.readRounds settings rounds).filterMap (ReadBlock.ofKind kind)).map Prod.fst =
      (List.replicate rounds.length (positions (some kind) (visited settings cs))).flatten := by
  induction rounds generalizing st with
  | nil => rfl
  | cons round rounds ih =>
    obtain ⟨record, cs'⟩ := round
    rw [List.forall_mem_cons] at hlayout
    rw [readRounds, List.filterMap_append, List.map_append, map_fst_ofKind_readBlocks,
      ih hlayout.2, positions_of_layout (some kind) (map_layout_visited hlayout.1)]
    rfl

theorem Playing.length_dict_readRounds (st : Playing L) :
    ((st.readRounds settings rounds).filterMap ReadBlock.dict).length =
      rounds.length * (positions none (visited settings cs)).length := by
  induction rounds generalizing st with
  | nil => exact (Nat.zero_mul _).symm
  | cons round rounds ih =>
    obtain ⟨record, cs'⟩ := round
    rw [List.forall_mem_cons] at hlayout
    rw [readRounds, List.filterMap_append, List.length_append, length_dict_readBlocks,
      ih hlayout.2, positions_of_layout none (map_layout_visited hlayout.1), List.length_cons,
      Nat.succ_mul, Nat.add_comm]

/-- **The list of one kind holds the last record's block only** exactly when the position of that
block divides the number of records before. -/
theorem Playing.blocks_playRounds_eq_iff (st : Playing L) (hempty : st.cache.NoBlocks)
    (record : CurrentRecord) (kind : BlockKind)
    (honce : (positions (some kind) (visited settings cs)).length ≤ 1) :
    ((st.playRounds settings rounds).play settings record cs).cache.blocks kind =
        (((st.playRounds settings rounds).player.readBlocks settings record
          (visited settings cs)).filterMap (ReadBlock.ofKind kind)).map Prod.snd ↔
      ∀ p ∈ positions (some kind) (visited settings cs), max p 1 ∣ rounds.length := by
  have hbefore := map_fst_ofKind_readRounds settings hlayout st kind
  have hlast := map_fst_ofKind_readBlocks settings record kind
    (st.playRounds settings rounds).player (visited settings cs)
  rw [blocks_play, blocks_playRounds, hempty, RecordCache.blocks_empty]
  generalize (st.readRounds settings rounds).filterMap (ReadBlock.ofKind kind) = before
    at hbefore ⊢
  generalize ((st.playRounds settings rounds).player.readBlocks settings record
    (visited settings cs)).filterMap (ReadBlock.ofKind kind) = last at hlast ⊢
  generalize positions (some kind) (visited settings cs) = ps at hbefore hlast honce ⊢
  match ps with
  | [] =>
    have hnone : before = [] := by
      rw [← List.map_eq_nil_iff, hbefore]
      simp
    rw [List.map_eq_nil_iff] at hlast
    rw [hnone, hlast]
    simp
  | [p] =>
    rw [List.map_eq_singleton_iff] at hlast
    obtain ⟨q, rfl, hq⟩ := hlast
    have hplaced : ∀ r ∈ before, r.1 = p := by
      intro r hr
      have hmem := List.mem_map_of_mem (f := Prod.fst) hr
      rw [hbefore] at hmem
      obtain ⟨l, hl, hrl⟩ := List.mem_flatten.1 hmem
      rw [List.eq_of_mem_replicate hl] at hrl
      exact List.mem_singleton.1 hrl
    have hlength : before.length = rounds.length := by
      rw [← List.length_map (f := Prod.fst), hbefore]
      simp
    rw [← placeAll_append, List.map_singleton, placeAll_eq_singleton_iff hplaced q hq, hlength]
    simp

end Layout

/-- **Records read one after the other leave only the last one** exactly when it is the only one, or
each block read is no metadata and has a position that divides the number of records before. -/
theorem playRounds_ofCache_eq_iff (st : Playing L)
    (hempty : st.cache.NoBlocks) (earlier : List (CurrentRecord × List (Callback L)))
    (record : CurrentRecord) (cs : List (Callback L))
    (hlayout : ∀ round ∈ earlier, round.2.map Callback.layout = cs.map Callback.layout)
    (honce : ∀ kind, (positions (some kind) cs).length ≤ 1) (info : RecordInfo)
    (recordIndex : ℕ) :
    let before := st.playRounds settings earlier
    PyRecord.ofCache info recordIndex (before.play settings record cs).cache =
        .ofCache info recordIndex (.ofBlocks record.formatVersion
          (before.player.readBlocks settings record (visited settings cs))) ↔
      earlier = [] ∨ ∀ c ∈ visited settings cs,
        c.kind ≠ none ∧ max c.blockIndex 1 ∣ earlier.length := by
  intro before
  have hdata := Playing.length_dict_readRounds settings hlayout st
  have hkinds : ∀ kind, (before.play settings record cs).cache.blocks kind =
      (RecordCache.ofBlocks record.formatVersion
        (before.player.readBlocks settings record (visited settings cs))).blocks kind ↔
      ∀ p ∈ positions (some kind) (visited settings cs), max p 1 ∣ earlier.length := by
    intro kind
    rw [RecordCache.blocks_ofBlocks]
    refine Playing.blocks_playRounds_eq_iff settings hlayout st hempty record kind
      (le_trans ?_ (honce kind))
    exact (((isPrefix_visited settings cs).sublist.filter _).map _).length_le
  have hmetadata : (before.play settings record cs).cache.datalayoutBlocks =
      (RecordCache.ofBlocks record.formatVersion
        (before.player.readBlocks settings record (visited settings cs))).datalayoutBlocks ↔
      earlier = [] ∨ positions none (visited settings cs) = [] := by
    rw [Playing.datalayoutBlocks_play, Playing.datalayoutBlocks_playRounds, hempty]
    show _ ++ _ = List.filterMap _ _ ↔ _
    rw [List.append_left_eq_self, ← List.length_eq_zero_iff]
    show ([] ++ _ : List L.PyDict).length = 0 ↔ _
    rw [List.nil_append, hdata, Nat.mul_eq_zero, List.length_eq_zero_iff, List.length_eq_zero_iff]
  have hversion : (before.play settings record cs).cache.recordFormatVersion =
      record.formatVersion := by
    rw [Playing.cache_play, RecordCache.recordFormatVersion_addAll]
  rw [PyRecord.ofCache_inj, RecordCache.eq_iff, hmetadata, forall_congr' hkinds]
  constructor
  · rintro ⟨-, hempty | hnone, hdvd⟩
    · exact .inl hempty
    · refine .inr fun c hc => ?_
      have hkind : c.kind ≠ none := fun hkind => by
        have hmem := mem_positions hc
        rw [hkind, hnone] at hmem
        exact absurd hmem List.not_mem_nil
      obtain ⟨kind, hkind'⟩ := Option.ne_none_iff_exists'.1 hkind
      exact ⟨hkind, hdvd kind c.blockIndex (hkind' ▸ mem_positions hc)⟩
  · rintro (hempty | hall)
    · refine ⟨hversion, .inl hempty, fun kind p _ => ?_⟩
      rw [hempty]
      exact Nat.dvd_zero _
    · refine ⟨hversion, .inr (List.eq_nil_iff_forall_not_mem.2 fun p hp => ?_), fun kind p hp => ?_⟩
      · obtain ⟨c, hc, hkind, -⟩ := exists_of_mem_positions hp
        exact (hall c hc).1 hkind
      · obtain ⟨c, hc, -, rfl⟩ := exists_of_mem_positions hp
        exact (hall c hc).2

theorem playRounds_ofCache_eq_iff_of_images :
    let before := (⟨.empty 0, .new⟩ : Playing .bare).playRounds plainSettings
      [(dataRecord, [pixelAt 0]), (dataRecord, [pixelAt 0])]
    PyRecord.ofCache ⟨.ofRat 2, ⟨1201, 1⟩, .data⟩ 2
        (before.play plainSettings dataRecord [pixelAt 0]).cache =
        .ofCache ⟨.ofRat 2, ⟨1201, 1⟩, .data⟩ 2 (.ofBlocks 1
          (before.player.readBlocks plainSettings dataRecord
            (visited plainSettings [pixelAt 0]))) ↔
      [(dataRecord, [pixelAt 0]), (dataRecord, [pixelAt 0])] = [] ∨
        ∀ c ∈ visited plainSettings [pixelAt 0], c.kind ≠ none ∧ max c.blockIndex 1 ∣ 2 :=
  playRounds_ofCache_eq_iff plainSettings ⟨.empty 0, .new⟩ rfl
    [(dataRecord, [pixelAt 0]), (dataRecord, [pixelAt 0])] dataRecord [pixelAt 0]
    (by simp) (fun kind => by cases kind <;> decide) ⟨.ofRat 2, ⟨1201, 1⟩, .data⟩ 2

/-- A metadata block and an image, read after another record like it, come with the metadata of
both. -/
theorem playRounds_ofCache_ne :
    let before := (⟨.empty 0, .new⟩ : Playing .bare).playRounds plainSettings
      [(dataRecord, [.dataLayout 0 (), pixelAt 1])]
    PyRecord.ofCache ⟨.ofRat 0, ⟨1201, 1⟩, .data⟩ 1
        (before.play plainSettings dataRecord [.dataLayout 0 (), pixelAt 1]).cache ≠
      .ofCache ⟨.ofRat 0, ⟨1201, 1⟩, .data⟩ 1 (.ofBlocks 1
        (before.player.readBlocks plainSettings dataRecord
          (visited plainSettings [.dataLayout 0 (), pixelAt 1]))) := by
  intro before h
  have hlengths := congrArg (fun record => record.datalayoutBlocks.length) h
  exact absurd hlengths (by decide)

end Rounds

end Pyvrs
