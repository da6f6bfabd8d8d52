import ContentHub.Proofs.Entries
import ContentHub.Proofs.Query.Form
import ContentHub.Proofs.Query.Request
import Mathlib.Tactic

namespace ContentHub.Query

abbrev Pairs := List (String × String)

namespace Pairs

def values (key : String) (pairs : Pairs) : List String :=
  (pairs.filter fun pair => pair.1 = key).map Prod.snd

variable {pairs others : Pairs}

lemma values_concat (key : String) (pairs : Pairs) (pair : String × String) :
    values key (pairs ++ [pair]) =
      if pair.1 = key then values key pairs ++ [pair.2] else values key pairs := by
  by_cases hkey : pair.1 = key <;> simp [values, hkey]

lemma values_reverse (key : String) (pairs : Pairs) :
    values key pairs.reverse = (values key pairs).reverse := by
  simp [values]

lemma get?_eq_head? (key : String) (pairs : Pairs) :
    Entries.get? key pairs = (values key pairs).head? := by
  induction pairs with
  | nil => rfl
  | cons pair rest ih =>
    by_cases hkey : pair.1 = key
    · simp [Entries.get?, values, hkey]
    · rw [Entries.get?, if_neg hkey, ih]
      simp [values, hkey]

end Pairs

def Form.Gathers (form : Form) (pairs : Pairs) : Prop :=
  ∀ key, Entries.get? key form =
    if pairs.values key = [] then none else some (pairs.values key)

def Request.Gathers (request : Request) (pairs : Pairs) : Prop :=
  ∀ key, Entries.get? key request = (pairs.values key).getLast?

namespace Form

variable {form : Form} {pairs : Pairs}

lemma Gathers.values (h : form.Gathers pairs) (key : String) :
    form.values key = pairs.values key := by
  rw [Form.values, h key]
  split
  · next hnone => rw [hnone, Option.getD_none]
  · rw [Option.getD_some]

lemma ofPairs_concat (pairs : Pairs) (pair : String × String) :
    ofPairs (pairs ++ [pair]) = (ofPairs pairs).add pair.1 pair.2 := by
  rw [ofPairs, List.foldl_append]
  rfl

lemma gathers_ofPairs (pairs : Pairs) : (ofPairs pairs).Gathers pairs := by
  -- the last pair is the one that is added last
  induction pairs using List.reverseRecOn with
  | nil => exact fun key => rfl
  | append_singleton pairs pair ih =>
    intro key
    rw [ofPairs_concat, add, Entries.get?_insert, Pairs.values_concat]
    by_cases hkey : pair.1 = key
    · rw [if_pos hkey, if_pos hkey, ih.values, hkey, if_neg (List.concat_ne_nil _ _)]
    · rw [if_neg hkey, if_neg hkey, ih key]

lemma settings_of_gathers {other : Form} (h : form.Gathers pairs) (ho : other.Gathers pairs) :
    other.settings = form.settings :=
  settings_congr fun field _ => (ho.values field).trans (h.values field).symm

end Form

namespace Request

variable {request : Request} {pairs : Pairs}

lemma gathers_ofPairs (pairs : Pairs) : (ofPairs pairs).Gathers pairs := by
  intro key
  rw [ofPairs, Entries.get?_ofList, Pairs.get?_eq_head?, Pairs.values_reverse, List.head?_reverse]

lemma settings_of_gathers {other : Request} (h : request.Gathers pairs) (ho : other.Gathers pairs) :
    other.settings = request.settings :=
  settings_congr fun parameter _ => (ho parameter).trans (h parameter).symm

end Request

end ContentHub.Query
