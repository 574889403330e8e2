import GameShelf.Binary64.Basic

namespace GameShelf

/-- One record of the catalog. The years of ancient games are negative. -/
structure Game where
  name : String
  id : UInt32
  minPlayers : UInt32
  maxPlayers : UInt32
  minPlayTime : UInt32
  maxPlayTime : UInt32
  difficulty : Binary64
  rank : UInt32
  rating : Binary64
  yearPublished : Int32
deriving DecidableEq

end GameShelf
