namespace MakeCheck

-- A program that the host knows how to run.
inductive Utility where
  | shell
  | bash
  | echo
  | printf
  | cat
  | list
  | printDirectory
  | sleep
  | repeatLine
  | succeed
  | fail
  | test
  | touch
  | remove
  | makeDirectory
  | sequence
  | head
  | tail
  | count
  | sort
  | unique
  | translate
  | cut
  | copy
  | move
  | tee
  | changeMode
  | removeDirectory
  | baseName
  | directoryName
  | environment
  | printEnvironment
  | search
  | edit
  | expression
  | link
  | readLink
  | realPath
  | makeQueue
  | install
  | makeTemporary
  | find
  | gather
  | limitTime
  | lowerPriority
  | ignoreHangup
  | make
  | awk
  | join
  | common
  | paste
  | expand
  | unexpand
  | fold
  | splitFile
  | shuffle
  | reverseLines
  | reverseChars
  | numberLines
  | compare
  | difference
  | dump
  | date
  | stat
  | truncate
  | linkPair
  | unlink
  | which
  | identity
  | userName
  | groups
  | loginName
  | terminal
  | machine
  | systemName
  | synchronize
  | digest (name : String)
  | checkSums
  | sumBlocks
  | sixBits
  | fiveBits
  | copyBlocks
  | factor
  | rank
  | extendedSearch
  | fixedSearch
  | buffer
  | session
deriving DecidableEq

end MakeCheck
