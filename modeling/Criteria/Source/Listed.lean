import Criteria.Source.Token

/-!
# Lists with signs between them

Items between signs, where a sign may also follow the last item.
-/

namespace Criteria
namespace Source

structure Listed (α : Type) where
  items : List α
  trailing : Bool

namespace Listed

def tokens (separator : Char) (listed : Listed (List Token)) : List Token :=
  [Token.mark separator false].intercalate listed.items ++
    if listed.trailing then [.mark separator false] else []

def map {α β : Type} (f : α -> β) (listed : Listed α) : Listed β :=
  ⟨listed.items.map f, listed.trailing⟩

end Listed
end Source
end Criteria
