import SierraCasm.Registry.Basic

/-! # What specialization gives

`Specialized ctx lib` lists the concrete libfuncs that a declaration can have, each with its
signature and with what the declarations of the program answer about its types.  For each generic
libfunc one lemma says when it specializes, and to what; `specializeLibfunc_eq_ok` reads the list off
these, and what holds of all libfuncs is proved by cases on it. -/

namespace SierraCasm.Concrete

open Sierra

def uintWidths : List Nat := [8, 16, 32, 64, 128]

/-- The concrete libfuncs of a program. -/
inductive Specialized (ctx : LibfuncContext) : ConcreteLibfunc → Prop
  | felt252Const {v : Int} {felt : Ident} : Felt.inRange v = true →
      ctx.lookup? { generic := "felt252" } = some felt →
      Specialized ctx
        { operation := .felt252Const v, signature := .single [] [felt], type := some felt }
  | felt252Binary (op : BinaryOp) {felt : Ident} :
      ctx.lookup? { generic := "felt252" } = some felt →
      Specialized ctx
        { operation := .felt252Binary op, signature := .single [felt, felt] [felt]
          type := some felt }
  | felt252IsZero {felt nonZero : Ident} :
      ctx.lookup? { generic := "felt252" } = some felt →
      ctx.lookup? { generic := "NonZero", args := [.type felt] } = some nonZero →
      Specialized ctx
        { operation := .felt252IsZero
          signature :=
            { params := [felt]
              branches := [⟨[], .known 0⟩, ⟨[nonZero], .known 0⟩]
              fallthrough := some 0 }
          type := some felt }
  | uintConst {bits : Nat} {v : Int} {uint : Ident} : bits ∈ uintWidths →
      fitsBits bits v = true → ctx.lookup? { generic := uintName bits } = some uint →
      Specialized ctx
        { operation := .uintConst v, signature := .single [] [uint], type := some uint }
  | uintToFelt252 {bits : Nat} {uint felt : Ident} : bits ∈ uintWidths →
      ctx.lookup? { generic := uintName bits } = some uint →
      ctx.lookup? { generic := "felt252" } = some felt →
      Specialized ctx
        { operation := .uintToFelt252, signature := .single [uint] [felt], type := some uint }
  | storeTemp {id : Ident} {ty : ConcreteType} : ctx.type? id = some ty →
      ty.info.storable = true →
      Specialized ctx
        { operation := .storeTemp, signature := .single [id] [id] (.known ty.info.size)
          type := some id }
  | rename {id : Ident} {ty : ConcreteType} : ctx.type? id = some ty →
      Specialized ctx
        { operation := .rename, signature := .single [id] [id], type := some id }
  | drop {id : Ident} {ty : ConcreteType} : ctx.type? id = some ty →
      ty.info.droppable = true →
      Specialized ctx { operation := .drop, signature := .single [id] [], type := some id }
  | dup {id : Ident} {ty : ConcreteType} : ctx.type? id = some ty →
      ty.info.duplicatable = true →
      Specialized ctx { operation := .dup, signature := .single [id] [id, id], type := some id }
  | jump :
      Specialized ctx
        { operation := .jump
          signature := { params := [], branches := [⟨[], .known 0⟩], fallthrough := none } }
  | branchAlign :
      Specialized ctx { operation := .branchAlign, signature := .single [] [] (.known 0) }
  | disableApTracking :
      Specialized ctx
        { operation := .disableApTracking, signature := .single [] [] .disableTracking }
  | enableApTracking :
      Specialized ctx
        { operation := .enableApTracking, signature := .single [] [] .enableTracking }
  | functionCall {id : Ident} {f : Function} : ctx.function? id = some f →
      Specialized ctx
        { operation := .functionCall f
          signature := .single f.paramTypes f.retTypes (.call f.id) }
  | withdrawGas {rangeCheck gas : Ident} :
      ctx.lookup? { generic := "RangeCheck" } = some rangeCheck →
      ctx.lookup? { generic := "GasBuiltin" } = some gas →
      Specialized ctx
        { operation := .withdrawGas
          signature :=
            { params := [rangeCheck, gas]
              branches := [⟨[rangeCheck, gas], .known 1⟩, ⟨[rangeCheck, gas], .known 1⟩]
              fallthrough := some 0 } }
  | structConstruct {id user : Ident} {ty : ConcreteType} {members : List Ident} :
      ctx.type? id = some ty → ty.shape = .struct user members →
      Specialized ctx
        { operation := .structConstruct, signature := .single members [id], type := some id }
  | structDeconstruct {id user : Ident} {ty : ConcreteType} {members : List Ident} :
      ctx.type? id = some ty → ty.shape = .struct user members →
      Specialized ctx
        { operation := .structDeconstruct, signature := .single [id] members, type := some id }
  | unbox {id box : Ident} {ty : ConcreteType} : ctx.type? id = some ty →
      ctx.lookup? { generic := "Box", args := [.type id] } = some box →
      Specialized ctx
        { operation := .unbox id, signature := .single [box] [id], type := some id }
  | unwrapNonZero {id nonZero : Ident} {ty : ConcreteType} : ctx.type? id = some ty →
      ctx.lookup? { generic := "NonZero", args := [.type id] } = some nonZero →
      Specialized ctx
        { operation := .unwrapNonZero, signature := .single [nonZero] [id], type := some id }
  | constAsImmediate {id inner : Ident} {ty : ConcreteType} {v : Int} :
      ctx.type? id = some ty → ty.shape = .const inner v →
      Specialized ctx
        { operation := .constAsImmediate v, signature := .single [] [inner]
          type := some inner }
  | constAsBox {id inner box : Ident} {ty : ConcreteType} {v : Int} (segment : Nat) :
      ctx.type? id = some ty → ty.shape = .const inner v →
      ctx.lookup? { generic := "Box", args := [.type inner] } = some box →
      Specialized ctx
        { operation := .constAsBox v segment, signature := .single [] [box] (.known 1)
          type := some inner }

/-! ### Arguments -/

section arguments

variable {types : TypeLookup} {ctx : LibfuncContext} {long required : LongId} {id : Ident}
  {ty : ConcreteType}

theorem pure_eq_ok_iff {α : Type} {a b : α} :
    (pure a : Except SpecializationError α) = .ok b ↔ b = a :=
  ⟨fun h => by cases h; rfl, fun h => by rw [h]; rfl⟩

theorem ite_reject_eq_ok_iff {α : Type} {c : Bool} {x : Except SpecializationError α} {a : α}
    {reason : Reason} :
    (if c = true then x else reject long reason) = .ok a ↔ c = true ∧ x = .ok a := by
  cases c <;> simp [reject]

theorem requireType_eq_ok_iff :
    requireType ctx long required = .ok id ↔ ctx.lookup? required = some id := by
  unfold requireType
  split
  · rename_i id' hlookup
    simp [hlookup]
  · rename_i hlookup
    simp [hlookup, reject]

theorem checkNoArgs_eq_ok_iff {u : Unit} : checkNoArgs long = .ok u ↔ long.args = [] := by
  cases hargs : long.args with
  | nil => simp [checkNoArgs, hargs]
  | cons arg args => simp [checkNoArgs, hargs, reject]

theorem typeArg_eq_ok_iff {i : Nat} {arg : GenericArg} :
    typeArg types long i arg = .ok (id, ty) ↔ arg = .type id ∧ types id = some ty := by
  constructor
  · intro h
    unfold typeArg at h
    split at h
    · split at h
      · cases h
        exact ⟨rfl, by assumption⟩
      · cases h
    · cases h
  · rintro ⟨rfl, hty⟩
    simp [typeArg, hty]

theorem singleTypeArg_eq_ok_iff :
    singleTypeArg types long = .ok (id, ty) ↔ long.args = [.type id] ∧ types id = some ty := by
  constructor
  · intro h
    unfold singleTypeArg at h
    split at h
    · rename_i arg hargs
      obtain ⟨rfl, hty⟩ := typeArg_eq_ok_iff.mp h
      exact ⟨hargs, hty⟩
    · cases h
  · rintro ⟨hargs, hty⟩
    simp [singleTypeArg, hargs, typeArg, hty]

theorem singleValueArg_eq_ok_iff {v : Int} :
    singleValueArg long = .ok v ↔ long.args = [.value v] := by
  unfold singleValueArg
  split
  · rename_i w hargs
    simp [hargs]
  · rename_i hargs
    simp only [reject, reduceCtorEq, false_iff]
    exact hargs v

theorem structArg_eq_ok_iff {members : List Ident} :
    structArg ctx long = .ok (id, members) ↔
      long.args = [.type id] ∧ ∃ ty user, ctx.type? id = some ty ∧
        ty.shape = .struct user members := by
  unfold structArg
  rw [bind_eq_ok]
  constructor
  · rintro ⟨⟨id', ty⟩, harg, h⟩
    obtain ⟨hargs, hty⟩ := singleTypeArg_eq_ok_iff.mp harg
    dsimp only at h
    split at h
    · rename_i user members' hshape
      cases h
      exact ⟨hargs, ty, user, hty, hshape⟩
    · cases h
  · rintro ⟨hargs, ty, user, hty, hshape⟩
    refine ⟨(id, ty), singleTypeArg_eq_ok_iff.mpr ⟨hargs, hty⟩, ?_⟩
    dsimp only
    rw [hshape]
    rfl

theorem constArg_eq_ok_iff {arg : GenericArg} {inner : Ident} {v : Int} :
    constArg ctx long arg = .ok (inner, v) ↔
      ∃ id ty, arg = .type id ∧ ctx.type? id = some ty ∧ ty.shape = .const inner v := by
  unfold constArg
  rw [bind_eq_ok]
  constructor
  · rintro ⟨⟨id, ty⟩, harg, h⟩
    obtain ⟨hid, hty⟩ := typeArg_eq_ok_iff.mp harg
    dsimp only at h
    split at h
    · rename_i inner' v' hshape
      cases h
      exact ⟨id, ty, hid, hty, hshape⟩
    · cases h
  · rintro ⟨id, ty, hid, hty, hshape⟩
    refine ⟨(id, ty), typeArg_eq_ok_iff.mpr ⟨hid, hty⟩, ?_⟩
    dsimp only
    rw [hshape]
    rfl

theorem segmentArg_eq_ok_iff {arg : GenericArg} {segment : Nat} :
    segmentArg long arg = .ok segment ↔ arg = .value segment ∧ segment < segmentBound := by
  unfold segmentArg
  split
  · split
    · simp only [Except.ok.injEq, GenericArg.value.injEq]
      omega
    · simp only [reject, reduceCtorEq, GenericArg.value.injEq, false_iff]
      omega
  · rename_i hvalue
    simp only [reject, reduceCtorEq, false_iff, not_and]
    exact fun heq => absurd heq (hvalue segment)

end arguments

/-! ### Libfuncs -/

section libfuncs

variable {ctx : LibfuncContext} {long : LongId} {lib : ConcreteLibfunc}

theorem width_of_ofName? {name : String} {g : GenericLibfunc}
    (h : GenericLibfunc.ofName? name = some g) :
    ∀ bits, g = .uintConst bits ∨ g = .uintToFelt252 bits → bits ∈ uintWidths := by
  unfold GenericLibfunc.ofName? at h
  split at h <;> cases h <;> simp [uintWidths]

theorem specializeMarker_eq_ok_iff {operation : Operation} {ap : ApEffect} :
    specializeMarker long operation ap = .ok lib ↔
      long.args = [] ∧ lib = { operation := operation, signature := .single [] [] ap } := by
  simp only [specializeMarker, bind_eq_ok, pure_eq_ok_iff, checkNoArgs_eq_ok_iff, exists_const]

theorem specializeFeltConst_eq_ok_iff : specializeFeltConst ctx long = .ok lib ↔
    ∃ v, long.args = [.value v] ∧ Felt.inRange v = true ∧
      ∃ felt, ctx.lookup? { generic := "felt252" } = some felt ∧
        lib = { operation := .felt252Const v, signature := .single [] [felt]
                type := some felt } := by
  simp only [specializeFeltConst, bind_eq_ok, pure_eq_ok_iff, singleValueArg_eq_ok_iff,
    requireType_eq_ok_iff, ite_reject_eq_ok_iff, requireFelt]

theorem specializeFeltBinary_eq_ok_iff {op : BinaryOp} :
    specializeFeltBinary ctx long op = .ok lib ↔
      long.args = [] ∧ ∃ felt, ctx.lookup? { generic := "felt252" } = some felt ∧
        lib = { operation := .felt252Binary op, signature := .single [felt, felt] [felt]
                type := some felt } := by
  simp only [specializeFeltBinary, bind_eq_ok, pure_eq_ok_iff, checkNoArgs_eq_ok_iff,
    requireType_eq_ok_iff, requireFelt, exists_const]

theorem specializeFeltIsZero_eq_ok_iff : specializeFeltIsZero ctx long = .ok lib ↔
    long.args = [] ∧ ∃ felt, ctx.lookup? { generic := "felt252" } = some felt ∧
      ∃ nonZero, ctx.lookup? { generic := "NonZero", args := [.type felt] } = some nonZero ∧
        lib = { operation := .felt252IsZero
                signature :=
                  { params := [felt]
                    branches := [⟨[], .known 0⟩, ⟨[nonZero], .known 0⟩]
                    fallthrough := some 0 }
                type := some felt } := by
  simp only [specializeFeltIsZero, bind_eq_ok, pure_eq_ok_iff, checkNoArgs_eq_ok_iff,
    requireType_eq_ok_iff, requireFelt, requireWrapper, exists_const]

theorem specializeUintConst_eq_ok_iff {bits : Nat} :
    specializeUintConst ctx long bits = .ok lib ↔
      ∃ v, long.args = [.value v] ∧ fitsBits bits v = true ∧
        ∃ uint, ctx.lookup? { generic := uintName bits } = some uint ∧
          lib = { operation := .uintConst v, signature := .single [] [uint]
                  type := some uint } := by
  simp only [specializeUintConst, bind_eq_ok, pure_eq_ok_iff, singleValueArg_eq_ok_iff,
    requireType_eq_ok_iff, ite_reject_eq_ok_iff, requireUint]

theorem specializeUintToFelt_eq_ok_iff {bits : Nat} :
    specializeUintToFelt ctx long bits = .ok lib ↔
      long.args = [] ∧ ∃ uint, ctx.lookup? { generic := uintName bits } = some uint ∧
        ∃ felt, ctx.lookup? { generic := "felt252" } = some felt ∧
          lib = { operation := .uintToFelt252, signature := .single [uint] [felt]
                  type := some uint } := by
  simp only [specializeUintToFelt, bind_eq_ok, pure_eq_ok_iff, checkNoArgs_eq_ok_iff,
    requireType_eq_ok_iff, requireFelt, requireUint, exists_const]

theorem specializeStoreTemp_eq_ok_iff : specializeStoreTemp ctx long = .ok lib ↔
    ∃ id ty, long.args = [.type id] ∧ ctx.type? id = some ty ∧ ty.info.storable = true ∧
      lib = { operation := .storeTemp, signature := .single [id] [id] (.known ty.info.size)
              type := some id } := by
  simp only [specializeStoreTemp, bind_eq_ok, pure_eq_ok_iff, singleTypeArg_eq_ok_iff,
    ite_reject_eq_ok_iff, Prod.exists, and_assoc]

theorem specializeRename_eq_ok_iff : specializeRename ctx long = .ok lib ↔
    ∃ id ty, long.args = [.type id] ∧ ctx.type? id = some ty ∧
      lib = { operation := .rename, signature := .single [id] [id], type := some id } := by
  simp only [specializeRename, bind_eq_ok, pure_eq_ok_iff, singleTypeArg_eq_ok_iff, Prod.exists,
    and_assoc]

theorem specializeDrop_eq_ok_iff : specializeDrop ctx long = .ok lib ↔
    ∃ id ty, long.args = [.type id] ∧ ctx.type? id = some ty ∧ ty.info.droppable = true ∧
      lib = { operation := .drop, signature := .single [id] [], type := some id } := by
  simp only [specializeDrop, bind_eq_ok, pure_eq_ok_iff, singleTypeArg_eq_ok_iff,
    ite_reject_eq_ok_iff, Prod.exists, and_assoc]

theorem specializeDup_eq_ok_iff : specializeDup ctx long = .ok lib ↔
    ∃ id ty, long.args = [.type id] ∧ ctx.type? id = some ty ∧ ty.info.duplicatable = true ∧
      lib = { operation := .dup, signature := .single [id] [id, id], type := some id } := by
  simp only [specializeDup, bind_eq_ok, pure_eq_ok_iff, singleTypeArg_eq_ok_iff,
    ite_reject_eq_ok_iff, Prod.exists, and_assoc]

theorem specializeJump_eq_ok_iff : specializeJump long = .ok lib ↔
    long.args = [] ∧
      lib = { operation := .jump
              signature := { params := [], branches := [⟨[], .known 0⟩]
                             fallthrough := none } } := by
  simp only [specializeJump, bind_eq_ok, pure_eq_ok_iff, checkNoArgs_eq_ok_iff, exists_const]

theorem specializeFunctionCall_eq_ok_iff : specializeFunctionCall ctx long = .ok lib ↔
    ∃ id f, long.args = [.userFunc id] ∧ ctx.function? id = some f ∧
      lib = { operation := .functionCall f
              signature := .single f.paramTypes f.retTypes (.call f.id) } := by
  constructor
  · intro h
    unfold specializeFunctionCall at h
    split at h
    · rename_i id hargs
      split at h
      · rename_i f hf
        cases h
        exact ⟨id, f, hargs, hf, rfl⟩
      · cases h
    · cases h
  · rintro ⟨id, f, hargs, hf, rfl⟩
    simp only [specializeFunctionCall, hargs, hf]

theorem specializeWithdrawGas_eq_ok_iff : specializeWithdrawGas ctx long = .ok lib ↔
    long.args = [] ∧ ∃ rangeCheck, ctx.lookup? { generic := "RangeCheck" } = some rangeCheck ∧
      ∃ gas, ctx.lookup? { generic := "GasBuiltin" } = some gas ∧
        lib = { operation := .withdrawGas
                signature :=
                  { params := [rangeCheck, gas]
                    branches := [⟨[rangeCheck, gas], .known 1⟩, ⟨[rangeCheck, gas], .known 1⟩]
                    fallthrough := some 0 } } := by
  simp only [specializeWithdrawGas, bind_eq_ok, pure_eq_ok_iff, checkNoArgs_eq_ok_iff,
    requireType_eq_ok_iff, exists_const]

theorem specializeStructConstruct_eq_ok_iff : specializeStructConstruct ctx long = .ok lib ↔
    ∃ id members, long.args = [.type id] ∧
      (∃ ty user, ctx.type? id = some ty ∧ ty.shape = .struct user members) ∧
      lib = { operation := .structConstruct, signature := .single members [id]
              type := some id } := by
  simp only [specializeStructConstruct, bind_eq_ok, pure_eq_ok_iff, structArg_eq_ok_iff,
    Prod.exists, and_assoc]

theorem specializeStructDeconstruct_eq_ok_iff : specializeStructDeconstruct ctx long = .ok lib ↔
    ∃ id members, long.args = [.type id] ∧
      (∃ ty user, ctx.type? id = some ty ∧ ty.shape = .struct user members) ∧
      lib = { operation := .structDeconstruct, signature := .single [id] members
              type := some id } := by
  simp only [specializeStructDeconstruct, bind_eq_ok, pure_eq_ok_iff, structArg_eq_ok_iff,
    Prod.exists, and_assoc]

theorem specializeUnbox_eq_ok_iff : specializeUnbox ctx long = .ok lib ↔
    ∃ id ty, long.args = [.type id] ∧ ctx.type? id = some ty ∧
      ∃ box, ctx.lookup? { generic := "Box", args := [.type id] } = some box ∧
        lib = { operation := .unbox id, signature := .single [box] [id], type := some id } := by
  simp only [specializeUnbox, bind_eq_ok, pure_eq_ok_iff, singleTypeArg_eq_ok_iff,
    requireType_eq_ok_iff, requireWrapper, Prod.exists, and_assoc]

theorem specializeUnwrapNonZero_eq_ok_iff : specializeUnwrapNonZero ctx long = .ok lib ↔
    ∃ id ty, long.args = [.type id] ∧ ctx.type? id = some ty ∧
      ∃ nonZero, ctx.lookup? { generic := "NonZero", args := [.type id] } = some nonZero ∧
        lib = { operation := .unwrapNonZero, signature := .single [nonZero] [id]
                type := some id } := by
  simp only [specializeUnwrapNonZero, bind_eq_ok, pure_eq_ok_iff, singleTypeArg_eq_ok_iff,
    requireType_eq_ok_iff, requireWrapper, Prod.exists, and_assoc]

theorem specializeConstAsImmediate_eq_ok_iff : specializeConstAsImmediate ctx long = .ok lib ↔
    ∃ id ty inner v, long.args = [.type id] ∧ ctx.type? id = some ty ∧ ty.shape = .const inner v ∧
      lib = { operation := .constAsImmediate v, signature := .single [] [inner]
              type := some inner } := by
  constructor
  · intro h
    unfold specializeConstAsImmediate at h
    split at h
    · rename_i arg hargs
      obtain ⟨⟨inner, v⟩, harg, ⟨⟩⟩ := bind_eq_ok.mp h
      obtain ⟨id, ty, rfl, hty, hshape⟩ := constArg_eq_ok_iff.mp harg
      exact ⟨id, ty, inner, v, hargs, hty, hshape, rfl⟩
    · cases h
  · rintro ⟨id, ty, inner, v, hargs, hty, hshape, rfl⟩
    simp only [specializeConstAsImmediate, hargs]
    exact bind_eq_ok.mpr ⟨(inner, v), constArg_eq_ok_iff.mpr ⟨id, ty, rfl, hty, hshape⟩, rfl⟩

theorem specializeConstAsBox_eq_ok_iff : specializeConstAsBox ctx long = .ok lib ↔
    ∃ id ty inner v, ∃ segment : Nat, long.args = [.type id, .value segment] ∧
      ctx.type? id = some ty ∧ ty.shape = .const inner v ∧ segment < segmentBound ∧
      ∃ box, ctx.lookup? { generic := "Box", args := [.type inner] } = some box ∧
        lib = { operation := .constAsBox v segment, signature := .single [] [box] (.known 1)
                type := some inner } := by
  constructor
  · intro h
    unfold specializeConstAsBox at h
    split at h
    · rename_i arg arg' hargs
      obtain ⟨⟨inner, v⟩, harg, h⟩ := bind_eq_ok.mp h
      obtain ⟨segment, hsegment, h⟩ := bind_eq_ok.mp h
      obtain ⟨box, hbox, ⟨⟩⟩ := bind_eq_ok.mp h
      obtain ⟨id, ty, rfl, hty, hshape⟩ := constArg_eq_ok_iff.mp harg
      obtain ⟨rfl, hlt⟩ := segmentArg_eq_ok_iff.mp hsegment
      exact ⟨id, ty, inner, v, segment, hargs, hty, hshape, hlt, box,
        requireType_eq_ok_iff.mp hbox, rfl⟩
    · cases h
  · rintro ⟨id, ty, inner, v, segment, hargs, hty, hshape, hlt, box, hbox, rfl⟩
    simp only [specializeConstAsBox, hargs]
    refine bind_eq_ok.mpr ⟨(inner, v), constArg_eq_ok_iff.mpr ⟨id, ty, rfl, hty, hshape⟩, ?_⟩
    refine bind_eq_ok.mpr ⟨segment, segmentArg_eq_ok_iff.mpr ⟨rfl, hlt⟩, ?_⟩
    exact bind_eq_ok.mpr ⟨box, requireType_eq_ok_iff.mpr hbox, rfl⟩

theorem specializeLibfunc_eq_ok (h : specializeLibfunc ctx long = .ok lib) :
    Specialized ctx lib := by
  unfold specializeLibfunc at h
  cases hname : GenericLibfunc.ofName? long.generic with
  | none =>
    rw [hname] at h
    cases h
  | some g =>
    have hwidth := width_of_ofName? hname
    rw [hname] at h
    cases g with
    | felt252Const =>
      obtain ⟨v, -, hrange, felt, hfelt, rfl⟩ := specializeFeltConst_eq_ok_iff.mp h
      exact .felt252Const hrange hfelt
    | felt252Binary op =>
      obtain ⟨-, felt, hfelt, rfl⟩ := specializeFeltBinary_eq_ok_iff.mp h
      exact .felt252Binary op hfelt
    | felt252IsZero =>
      obtain ⟨-, felt, hfelt, nonZero, hnonZero, rfl⟩ := specializeFeltIsZero_eq_ok_iff.mp h
      exact .felt252IsZero hfelt hnonZero
    | uintConst bits =>
      obtain ⟨v, -, hfits, uint, huint, rfl⟩ := specializeUintConst_eq_ok_iff.mp h
      exact .uintConst (hwidth bits (.inl rfl)) hfits huint
    | uintToFelt252 bits =>
      obtain ⟨-, uint, huint, felt, hfelt, rfl⟩ := specializeUintToFelt_eq_ok_iff.mp h
      exact .uintToFelt252 (hwidth bits (.inr rfl)) huint hfelt
    | storeTemp =>
      obtain ⟨id, ty, -, hty, hstorable, rfl⟩ := specializeStoreTemp_eq_ok_iff.mp h
      exact .storeTemp hty hstorable
    | rename =>
      obtain ⟨id, ty, -, hty, rfl⟩ := specializeRename_eq_ok_iff.mp h
      exact .rename hty
    | drop =>
      obtain ⟨id, ty, -, hty, hdroppable, rfl⟩ := specializeDrop_eq_ok_iff.mp h
      exact .drop hty hdroppable
    | dup =>
      obtain ⟨id, ty, -, hty, hduplicatable, rfl⟩ := specializeDup_eq_ok_iff.mp h
      exact .dup hty hduplicatable
    | jump =>
      obtain ⟨-, rfl⟩ := specializeJump_eq_ok_iff.mp h
      exact .jump
    | branchAlign | disableApTracking | enableApTracking =>
      obtain ⟨-, rfl⟩ := specializeMarker_eq_ok_iff.mp h
      constructor
    | functionCall =>
      obtain ⟨id, f, -, hf, rfl⟩ := specializeFunctionCall_eq_ok_iff.mp h
      exact .functionCall hf
    | withdrawGas =>
      obtain ⟨-, rangeCheck, hrangeCheck, gas, hgas, rfl⟩ := specializeWithdrawGas_eq_ok_iff.mp h
      exact .withdrawGas hrangeCheck hgas
    | structConstruct =>
      obtain ⟨id, members, -, ⟨ty, user, hty, hshape⟩, rfl⟩ :=
        specializeStructConstruct_eq_ok_iff.mp h
      exact .structConstruct hty hshape
    | structDeconstruct =>
      obtain ⟨id, members, -, ⟨ty, user, hty, hshape⟩, rfl⟩ :=
        specializeStructDeconstruct_eq_ok_iff.mp h
      exact .structDeconstruct hty hshape
    | unbox =>
      obtain ⟨id, ty, -, hty, box, hbox, rfl⟩ := specializeUnbox_eq_ok_iff.mp h
      exact .unbox hty hbox
    | unwrapNonZero =>
      obtain ⟨id, ty, -, hty, nonZero, hnonZero, rfl⟩ := specializeUnwrapNonZero_eq_ok_iff.mp h
      exact .unwrapNonZero hty hnonZero
    | constAsImmediate =>
      obtain ⟨id, ty, inner, v, -, hty, hshape, rfl⟩ := specializeConstAsImmediate_eq_ok_iff.mp h
      exact .constAsImmediate hty hshape
    | constAsBox =>
      obtain ⟨id, ty, inner, v, segment, -, hty, hshape, -, box, hbox, rfl⟩ :=
        specializeConstAsBox_eq_ok_iff.mp h
      exact .constAsBox segment hty hshape hbox

theorem Specialized.of_functionCall {f : Function} (h : Specialized ctx lib)
    (hcall : lib.operation = .functionCall f) :
    lib.signature = .single f.paramTypes f.retTypes (.call f.id) ∧
      ∃ id, ctx.function? id = some f := by
  cases h <;> cases hcall
  rename_i id hf
  exact ⟨rfl, id, hf⟩

end libfuncs

end SierraCasm.Concrete
