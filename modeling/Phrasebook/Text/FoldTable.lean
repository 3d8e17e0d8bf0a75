import Phrasebook.Text.ClassTable
/-!
Data of compatibility composition, for the characters that may stand in a name: compatibility
decompositions, combining classes and canonical pairs.
-/
namespace Phrasebook.Text

/-- Runs `first width image` of characters with a one-character decomposition. -/
def foldRuns : List Nat := RangeTable.numbers
  "170 0 97 181 0 956 186 0 111 383 0 115 688 0 104 689 0 614 690 0 106 691 0 114 692 0 633 693
    0 635 694 0 641 695 0 119 696 0 121 736 0 611 737 0 108 738 0 115 739 0 120 740 0 661 832 1
    768 835 0 787 884 0 697 903 0 183 976 0 946 977 0 952 978 0 933 981 0 966 982 0 960 1008 0
    954 1009 1 961 1012 0 920 1013 0 949 1017 0 931 4348 0 4316 7468 0 65 7469 0 198 7470 0 66
    7472 1 68 7474 0 398 7475 7 71 7484 0 79 7485 0 546 7486 0 80 7487 0 82 7488 1 84 7490 0 87
    7491 0 97 7492 1 592 7494 0 7426 7495 0 98 7496 1 100 7498 0 601 7499 1 603 7501 0 103 7503
    0 107 7504 0 109 7505 0 331 7506 0 111 7507 0 596 7508 1 7446 7510 0 112 7511 1 116 7513 0
    7453 7514 0 623 7515 0 118 7516 0 7461 7517 2 946 7520 1 966 7522 0 105 7523 0 114 7524 1
    117 7526 1 946 7528 0 961 7529 1 966 7544 0 1085 7579 0 594 7580 0 99 7581 0 597 7582 0 240
    7583 0 604 7584 0 102 7585 0 607 7586 0 609 7587 0 613 7588 2 616 7591 0 7547 7592 0 669
    7593 0 621 7594 0 7557 7595 0 671 7596 0 625 7597 0 624 7598 3 626 7602 0 632 7603 1 642
    7605 0 427 7606 1 649 7608 0 7452 7609 1 651 7611 0 122 7612 2 656 7615 0 952 8126 0 953
    8305 0 105 8319 0 110 8336 0 97 8337 0 101 8338 0 111 8339 0 120 8340 0 601 8341 0 104 8342
    3 107 8346 0 112 8347 1 115 8450 0 67 8455 0 400 8458 0 103 8459 0 72 8460 0 72 8461 0 72
    8462 0 104 8463 0 295 8464 0 73 8465 0 73 8466 0 76 8467 0 108 8469 0 78 8473 2 80 8476 0 82
    8477 0 82 8484 0 90 8486 0 937 8488 0 90 8490 0 75 8492 1 66 8495 0 101 8496 1 69 8499 0 77
    8500 0 111 8501 3 1488 8505 0 105 8508 0 960 8509 0 947 8510 0 915 8511 0 928 8517 0 68 8518
    1 100 8520 1 105 8544 0 73 8548 0 86 8553 0 88 8556 0 76 8557 1 67 8559 0 77 8560 0 105 8564
    0 118 8569 0 120 8572 0 108 8573 1 99 8575 0 109 11388 0 106 11389 0 86 11631 0 11617 12344
    0 21313 12345 1 21316 12593 1 4352 12595 0 4522 12596 0 4354 12597 1 4524 12599 2 4355 12602
    5 4528 12608 0 4378 12609 2 4358 12612 0 4385 12613 9 4361 12623 20 4449 12644 0 4448 12645
    1 4372 12647 1 4551 12649 0 4556 12650 0 4558 12651 0 4563 12652 0 4567 12653 0 4569 12654 0
    4380 12655 0 4573 12656 0 4575 12657 1 4381 12659 0 4384 12660 1 4386 12662 0 4391 12663 0
    4393 12664 4 4395 12669 0 4402 12670 0 4406 12671 0 4416 12672 0 4423 12673 0 4428 12674 1
    4593 12676 2 4439 12679 1 4484 12681 0 4488 12682 1 4497 12684 0 4500 12685 0 4510 12686 0
    4513 42652 0 1098 42653 0 1100 42864 0 42863 42994 0 67 42995 0 70 42996 0 81 43000 0 294
    43001 0 339 43868 0 42791 43869 0 43831 43870 0 619 43871 0 43858 43881 0 653 63744 0 35912
    63745 0 26356 63746 0 36554 63747 0 36040 63748 0 28369 63749 0 20018 63750 0 21477 63751 0
    40860 63752 0 40860 63753 0 22865 63754 0 37329 63755 0 21895 63756 0 22856 63757 0 25078
    63758 0 30313 63759 0 32645 63760 0 34367 63761 0 34746 63762 0 35064 63763 0 37007 63764 0
    27138 63765 0 27931 63766 0 28889 63767 0 29662 63768 0 33853 63769 0 37226 63770 0 39409
    63771 0 20098 63772 0 21365 63773 0 27396 63774 0 29211 63775 0 34349 63776 0 40478 63777 0
    23888 63778 0 28651 63779 0 34253 63780 0 35172 63781 0 25289 63782 0 33240 63783 0 34847
    63784 0 24266 63785 0 26391 63786 0 28010 63787 0 29436 63788 0 37070 63789 0 20358 63790 0
    20919 63791 0 21214 63792 0 25796 63793 0 27347 63794 0 29200 63795 0 30439 63796 0 32769
    63797 0 34310 63798 0 34396 63799 0 36335 63800 0 38706 63801 0 39791 63802 0 40442 63803 0
    30860 63804 0 31103 63805 0 32160 63806 0 33737 63807 0 37636 63808 0 40575 63809 0 35542
    63810 0 22751 63811 0 24324 63812 0 31840 63813 0 32894 63814 0 29282 63815 0 30922 63816 0
    36034 63817 0 38647 63818 0 22744 63819 0 23650 63820 0 27155 63821 0 28122 63822 0 28431
    63823 0 32047 63824 0 32311 63825 0 38475 63826 0 21202 63827 0 32907 63828 0 20956 63829 0
    20940 63830 0 31260 63831 0 32190 63832 0 33777 63833 0 38517 63834 0 35712 63835 0 25295
    63836 0 27138 63837 0 35582 63838 0 20025 63839 0 23527 63840 0 24594 63841 0 29575 63842 0
    30064 63843 0 21271 63844 0 30971 63845 0 20415 63846 0 24489 63847 0 19981 63848 0 27852
    63849 0 25976 63850 0 32034 63851 0 21443 63852 0 22622 63853 0 30465 63854 0 33865 63855 0
    35498 63856 0 27578 63857 0 36784 63858 0 27784 63859 0 25342 63860 0 33509 63861 0 25504
    63862 0 30053 63863 0 20142 63864 0 20841 63865 0 20937 63866 0 26753 63867 0 31975 63868 0
    33391 63869 0 35538 63870 0 37327 63871 0 21237 63872 0 21570 63873 0 22899 63874 0 24300
    63875 0 26053 63876 0 28670 63877 0 31018 63878 0 38317 63879 0 39530 63880 0 40599 63881 0
    40654 63882 0 21147 63883 0 26310 63884 0 27511 63885 0 36706 63886 0 24180 63887 0 24976
    63888 0 25088 63889 0 25754 63890 0 28451 63891 0 29001 63892 0 29833 63893 0 31178 63894 0
    32244 63895 0 32879 63896 0 36646 63897 0 34030 63898 0 36899 63899 0 37706 63900 0 21015
    63901 0 21155 63902 0 21693 63903 0 28872 63904 0 35010 63905 0 35498 63906 0 24265 63907 0
    24565 63908 0 25467 63909 0 27566 63910 0 31806 63911 0 29557 63912 0 20196 63913 0 22265
    63914 0 23527 63915 0 23994 63916 0 24604 63917 0 29618 63918 0 29801 63919 0 32666 63920 0
    32838 63921 0 37428 63922 0 38646 63923 0 38728 63924 0 38936 63925 0 20363 63926 0 31150
    63927 0 37300 63928 0 38584 63929 0 24801 63930 0 20102 63931 0 20698 63932 0 23534 63933 0
    23615 63934 0 26009 63935 0 27138 63936 0 29134 63937 0 30274 63938 0 34044 63939 0 36988
    63940 0 40845 63941 0 26248 63942 0 38446 63943 0 21129 63944 0 26491 63945 0 26611 63946 0
    27969 63947 0 28316 63948 0 29705 63949 0 30041 63950 0 30827 63951 0 32016 63952 0 39006
    63953 0 20845 63954 0 25134 63955 0 38520 63956 0 20523 63957 0 23833 63958 0 28138 63959 0
    36650 63960 0 24459 63961 0 24900 63962 0 26647 63963 0 29575 63964 0 38534 63965 0 21033
    63966 0 21519 63967 0 23653 63968 0 26131 63969 0 26446 63970 0 26792 63971 0 27877 63972 0
    29702 63973 0 30178 63974 0 32633 63975 0 35023 63976 0 35041 63977 0 37324 63978 0 38626
    63979 0 21311 63980 0 28346 63981 0 21533 63982 0 29136 63983 0 29848 63984 0 34298 63985 0
    38563 63986 0 40023 63987 0 40607 63988 0 26519 63989 0 28107 63990 0 33256 63991 0 31435
    63992 0 31520 63993 0 31890 63994 0 29376 63995 0 28825 63996 0 35672 63997 0 20160 63998 0
    33590 63999 0 21050 64000 0 20999 64001 0 24230 64002 0 25299 64003 0 31958 64004 0 23429
    64005 0 27934 64006 0 26292 64007 0 36667 64008 0 34892 64009 0 38477 64010 0 35211 64011 0
    24275 64012 0 20800 64013 0 21952 64016 0 22618 64018 0 26228 64021 0 20958 64022 0 29482
    64023 0 30410 64024 0 31036 64025 0 31070 64026 0 31077 64027 0 31119 64028 0 38742 64029 0
    31934 64030 0 32701 64032 0 34322 64034 0 35576 64037 0 36920 64038 0 37117 64042 0 39151
    64043 0 39164 64044 0 39208 64045 0 40372 64046 0 37086 64047 0 38583 64048 0 20398 64049 0
    20711 64050 0 20813 64051 0 21193 64052 0 21220 64053 0 21329 64054 0 21917 64055 0 22022
    64056 0 22120 64057 0 22592 64058 0 22696 64059 0 23652 64060 0 23662 64061 0 24724 64062 0
    24936 64063 0 24974 64064 0 25074 64065 0 25935 64066 0 26082 64067 0 26257 64068 0 26757
    64069 0 28023 64070 0 28186 64071 0 28450 64072 0 29038 64073 0 29227 64074 0 29730 64075 0
    30865 64076 0 31038 64077 0 31049 64078 0 31048 64079 0 31056 64080 0 31062 64081 0 31069
    64082 1 31117 64084 0 31296 64085 0 31361 64086 0 31680 64087 0 32244 64088 0 32265 64089 0
    32321 64090 0 32626 64091 0 32773 64092 0 33261 64093 0 33401 64094 0 33401 64095 0 33879
    64096 0 35088 64097 0 35222 64098 0 35585 64099 0 35641 64100 0 36051 64101 0 36104 64102 0
    36790 64103 0 36920 64104 0 38627 64105 0 38911 64106 0 38971 64107 0 24693 64108 0 148206
    64109 0 33304 64112 0 20006 64113 0 20917 64114 0 20840 64115 0 20352 64116 0 20805 64117 0
    20864 64118 0 21191 64119 0 21242 64120 0 21917 64121 0 21845 64122 0 21913 64123 0 21986
    64124 0 22618 64125 0 22707 64126 0 22852 64127 0 22868 64128 0 23138 64129 0 23336 64130 0
    24274 64131 0 24281 64132 0 24425 64133 0 24493 64134 0 24792 64135 0 24910 64136 0 24840
    64137 0 24974 64138 0 24928 64139 0 25074 64140 0 25140 64141 0 25540 64142 0 25628 64143 0
    25682 64144 0 25942 64145 0 26228 64146 0 26391 64147 0 26395 64148 0 26454 64149 0 27513
    64150 0 27578 64151 0 27969 64152 0 28379 64153 0 28363 64154 0 28450 64155 0 28702 64156 0
    29038 64157 0 30631 64158 0 29237 64159 0 29359 64160 0 29482 64161 0 29809 64162 0 29958
    64163 0 30011 64164 0 30237 64165 0 30239 64166 0 30410 64167 0 30427 64168 0 30452 64169 0
    30538 64170 0 30528 64171 0 30924 64172 0 31409 64173 0 31680 64174 0 31867 64175 0 32091
    64176 0 32244 64177 0 32574 64178 0 32773 64179 0 33618 64180 0 33775 64181 0 34681 64182 0
    35137 64183 0 35206 64184 0 35222 64185 0 35519 64186 0 35576 64187 0 35531 64188 0 35585
    64189 0 35582 64190 0 35565 64191 0 35641 64192 0 35722 64193 0 36104 64194 0 36664 64195 0
    36978 64196 0 37273 64197 0 37494 64198 0 38524 64199 0 38627 64200 0 38742 64201 0 38875
    64202 0 38911 64203 0 38923 64204 0 38971 64205 0 39698 64206 0 40860 64207 0 141386 64208 0
    141380 64209 0 144341 64210 0 15261 64211 0 16408 64212 0 16441 64213 0 152137 64214 0
    154832 64215 0 163539 64216 0 40771 64217 0 40846 64288 0 1506 64289 0 1488 64290 1 1491
    64292 2 1499 64295 0 1512 64296 0 1514 64336 0 1649 64337 0 1649 64338 0 1659 64339 0 1659
    64340 0 1659 64341 0 1659 64342 0 1662 64343 0 1662 64344 0 1662 64345 0 1662 64346 0 1664
    64347 0 1664 64348 0 1664 64349 0 1664 64350 0 1658 64351 0 1658 64352 0 1658 64353 0 1658
    64354 0 1663 64355 0 1663 64356 0 1663 64357 0 1663 64358 0 1657 64359 0 1657 64360 0 1657
    64361 0 1657 64362 0 1700 64363 0 1700 64364 0 1700 64365 0 1700 64366 0 1702 64367 0 1702
    64368 0 1702 64369 0 1702 64370 0 1668 64371 0 1668 64372 0 1668 64373 0 1668 64374 0 1667
    64375 0 1667 64376 0 1667 64377 0 1667 64378 0 1670 64379 0 1670 64380 0 1670 64381 1 1670
    64383 0 1671 64384 0 1671 64385 0 1671 64386 0 1677 64387 0 1677 64388 0 1676 64389 0 1676
    64390 0 1678 64391 0 1678 64392 0 1672 64393 0 1672 64394 0 1688 64395 0 1688 64396 0 1681
    64397 0 1681 64398 0 1705 64399 0 1705 64400 0 1705 64401 0 1705 64402 0 1711 64403 0 1711
    64404 0 1711 64405 0 1711 64406 0 1715 64407 0 1715 64408 0 1715 64409 0 1715 64410 0 1713
    64411 0 1713 64412 0 1713 64413 0 1713 64414 0 1722 64415 1 1722 64417 0 1723 64418 0 1723
    64419 0 1723 64422 0 1729 64423 0 1729 64424 0 1729 64425 0 1729 64426 0 1726 64427 0 1726
    64428 0 1726 64429 0 1726 64430 0 1746 64431 0 1746 64467 0 1709 64468 0 1709 64469 0 1709
    64470 0 1709 64471 0 1735 64472 0 1735 64473 0 1734 64474 0 1734 64475 0 1736 64476 0 1736
    64478 0 1739 64479 0 1739 64480 0 1733 64481 0 1733 64482 0 1737 64483 0 1737 64484 0 1744
    64485 0 1744 64486 0 1744 64487 0 1744 64488 0 1609 64489 0 1609 64508 0 1740 64509 0 1740
    64510 0 1740 64511 0 1740 65075 0 95 65076 0 95 65101 0 95 65102 0 95 65103 0 95 65152 0
    1569 65165 0 1575 65166 1 1575 65168 0 1576 65169 0 1576 65170 1 1576 65172 1 1577 65174 0
    1578 65175 0 1578 65176 1 1578 65178 0 1579 65179 0 1579 65180 1 1579 65182 0 1580 65183 0
    1580 65184 1 1580 65186 0 1581 65187 0 1581 65188 1 1581 65190 0 1582 65191 0 1582 65192 1
    1582 65194 1 1583 65196 1 1584 65198 1 1585 65200 1 1586 65202 0 1587 65203 0 1587 65204 1
    1587 65206 0 1588 65207 0 1588 65208 1 1588 65210 0 1589 65211 0 1589 65212 1 1589 65214 0
    1590 65215 0 1590 65216 1 1590 65218 0 1591 65219 0 1591 65220 1 1591 65222 0 1592 65223 0
    1592 65224 1 1592 65226 0 1593 65227 0 1593 65228 1 1593 65230 0 1594 65231 0 1594 65232 0
    1594 65233 0 1601 65234 0 1601 65235 0 1601 65236 1 1601 65238 0 1602 65239 0 1602 65240 1
    1602 65242 0 1603 65243 0 1603 65244 1 1603 65246 0 1604 65247 0 1604 65248 1 1604 65250 0
    1605 65251 0 1605 65252 1 1605 65254 0 1606 65255 0 1606 65256 1 1606 65258 0 1607 65259 0
    1607 65260 1 1607 65262 1 1608 65264 1 1609 65266 0 1610 65267 0 1610 65268 0 1610 65296 9
    48 65313 25 65 65343 0 95 65345 25 97 65382 0 12530 65383 0 12449 65384 0 12451 65385 0
    12453 65386 0 12455 65387 0 12457 65388 0 12515 65389 0 12517 65390 0 12519 65391 0 12483
    65392 0 12540 65393 0 12450 65394 0 12452 65395 0 12454 65396 0 12456 65397 1 12458 65399 0
    12461 65400 0 12463 65401 0 12465 65402 0 12467 65403 0 12469 65404 0 12471 65405 0 12473
    65406 0 12475 65407 0 12477 65408 0 12479 65409 0 12481 65410 0 12484 65411 0 12486 65412 0
    12488 65413 5 12490 65419 0 12498 65420 0 12501 65421 0 12504 65422 0 12507 65423 4 12510
    65428 0 12516 65429 0 12518 65430 5 12520 65436 0 12527 65437 0 12531 65438 1 12441 65440 0
    4448 65441 1 4352 65443 0 4522 65444 0 4354 65445 1 4524 65447 2 4355 65450 5 4528 65456 0
    4378 65457 2 4358 65460 0 4385 65461 9 4361 65474 5 4449 65482 5 4455 65490 5 4461 65498 2
    4467 67457 1 720 67459 0 230 67460 0 665 67461 0 595 67463 0 675 67464 0 43878 67465 0 677
    67466 0 676 67467 1 598 67469 0 7569 67470 0 600 67471 0 606 67472 0 681 67473 0 612 67474 0
    610 67475 0 608 67476 0 667 67477 0 295 67478 0 668 67479 0 615 67480 0 644 67481 1 682
    67483 0 620 67484 0 122628 67485 0 42894 67486 0 622 67487 0 122629 67488 0 654 67489 0
    122630 67490 0 248 67491 1 630 67493 0 113 67494 0 634 67495 0 122632 67496 1 637 67498 0
    640 67499 0 680 67500 0 678 67501 0 43879 67502 0 679 67503 0 648 67504 0 11377 67506 0 655
    67507 1 673 67509 0 664 67510 2 448 67513 0 122634 67514 0 122654 119808 25 65 119834 25 97
    119860 25 65 119886 6 97 119894 17 105 119912 25 65 119938 25 97 119964 0 65 119966 1 67
    119970 0 71 119973 1 74 119977 3 78 119982 7 83 119990 3 97 119995 0 102 119997 6 104 120005
    10 112 120016 25 65 120042 25 97 120068 1 65 120071 3 68 120077 7 74 120086 6 83 120094 25
    97 120120 1 65 120123 3 68 120128 4 73 120134 0 79 120138 6 83 120146 25 97 120172 25 65
    120198 25 97 120224 25 65 120250 25 97 120276 25 65 120302 25 97 120328 25 65 120354 25 97
    120380 25 65 120406 25 97 120432 25 65 120458 25 97 120484 0 305 120485 0 567 120488 16 913
    120505 0 920 120506 6 931 120514 24 945 120540 0 949 120541 0 952 120542 0 954 120543 0 966
    120544 0 961 120545 0 960 120546 16 913 120563 0 920 120564 6 931 120572 24 945 120598 0 949
    120599 0 952 120600 0 954 120601 0 966 120602 0 961 120603 0 960 120604 16 913 120621 0 920
    120622 6 931 120630 24 945 120656 0 949 120657 0 952 120658 0 954 120659 0 966 120660 0 961
    120661 0 960 120662 16 913 120679 0 920 120680 6 931 120688 24 945 120714 0 949 120715 0 952
    120716 0 954 120717 0 966 120718 0 961 120719 0 960 120720 16 913 120737 0 920 120738 6 931
    120746 24 945 120772 0 949 120773 0 952 120774 0 954 120775 0 966 120776 0 961 120777 0 960
    120778 1 988 120782 9 48 120792 9 48 120802 9 48 120812 9 48 120822 9 48 126464 1 1575
    126466 0 1580 126467 0 1583 126469 0 1608 126470 0 1586 126471 0 1581 126472 0 1591 126473 0
    1610 126474 3 1603 126478 0 1587 126479 0 1593 126480 0 1601 126481 0 1589 126482 0 1602
    126483 0 1585 126484 0 1588 126485 1 1578 126487 0 1582 126488 0 1584 126489 0 1590 126490 0
    1592 126491 0 1594 126492 0 1646 126493 0 1722 126494 0 1697 126495 0 1647 126497 0 1576
    126498 0 1580 126500 0 1607 126503 0 1581 126505 0 1610 126506 3 1603 126510 0 1587 126511 0
    1593 126512 0 1601 126513 0 1589 126514 0 1602 126516 0 1588 126517 1 1578 126519 0 1582
    126521 0 1590 126523 0 1594 126530 0 1580 126535 0 1581 126537 0 1610 126539 0 1604 126541 0
    1606 126542 0 1587 126543 0 1593 126545 0 1589 126546 0 1602 126548 0 1588 126551 0 1582
    126553 0 1590 126555 0 1594 126557 0 1722 126559 0 1647 126561 0 1576 126562 0 1580 126564 0
    1607 126567 0 1581 126568 0 1591 126569 0 1610 126570 0 1603 126572 1 1605 126574 0 1587
    126575 0 1593 126576 0 1601 126577 0 1589 126578 0 1602 126580 0 1588 126581 1 1578 126583 0
    1582 126585 0 1590 126586 0 1592 126587 0 1594 126588 0 1646 126590 0 1697 126592 1 1575
    126594 0 1580 126595 0 1583 126596 1 1607 126598 0 1586 126599 0 1581 126600 0 1591 126601 0
    1610 126603 2 1604 126606 0 1587 126607 0 1593 126608 0 1601 126609 0 1589 126610 0 1602
    126611 0 1585 126612 0 1588 126613 1 1578 126615 0 1582 126616 0 1584 126617 0 1590 126618 0
    1592 126619 0 1594 126625 0 1576 126626 0 1580 126627 0 1583 126629 0 1608 126630 0 1586
    126631 0 1581 126632 0 1591 126633 0 1610 126635 2 1604 126638 0 1587 126639 0 1593 126640 0
    1601 126641 0 1589 126642 0 1602 126643 0 1585 126644 0 1588 126645 1 1578 126647 0 1582
    126648 0 1584 126649 0 1590 126650 0 1592 126651 0 1594 130032 9 48 194560 0 20029 194561 0
    20024 194562 0 20033 194563 0 131362 194564 0 20320 194565 0 20398 194566 0 20411 194567 0
    20482 194568 0 20602 194569 0 20633 194570 0 20711 194571 0 20687 194572 0 13470 194573 0
    132666 194574 0 20813 194575 0 20820 194576 0 20836 194577 0 20855 194578 0 132380 194579 0
    13497 194580 0 20839 194581 0 20877 194582 0 132427 194583 0 20887 194584 0 20900 194585 0
    20172 194586 0 20908 194587 0 20917 194588 0 168415 194589 0 20981 194590 0 20995 194591 0
    13535 194592 0 21051 194593 0 21062 194594 0 21106 194595 0 21111 194596 0 13589 194597 0
    21191 194598 0 21193 194599 0 21220 194600 0 21242 194601 1 21253 194603 0 21271 194604 0
    21321 194605 0 21329 194606 0 21338 194607 0 21363 194608 0 21373 194609 0 21375 194610 0
    21375 194611 0 21375 194612 0 133676 194613 0 28784 194614 0 21450 194615 0 21471 194616 0
    133987 194617 0 21483 194618 0 21489 194619 0 21510 194620 0 21662 194621 0 21560 194622 0
    21576 194623 0 21608 194624 0 21666 194625 0 21750 194626 0 21776 194627 0 21843 194628 0
    21859 194629 0 21892 194630 0 21892 194631 0 21913 194632 0 21931 194633 0 21939 194634 0
    21954 194635 0 22294 194636 0 22022 194637 0 22295 194638 0 22097 194639 0 22132 194640 0
    20999 194641 0 22766 194642 0 22478 194643 0 22516 194644 0 22541 194645 0 22411 194646 0
    22578 194647 0 22577 194648 0 22700 194649 0 136420 194650 0 22770 194651 0 22775 194652 0
    22790 194653 0 22810 194654 0 22818 194655 0 22882 194656 0 136872 194657 0 136938 194658 0
    23020 194659 0 23067 194660 0 23079 194661 0 23000 194662 0 23142 194663 0 14062 194664 0
    14076 194665 0 23304 194666 0 23358 194667 0 23358 194668 0 137672 194669 0 23491 194670 0
    23512 194671 0 23527 194672 0 23539 194673 0 138008 194674 0 23551 194675 0 23558 194676 0
    24403 194677 0 23586 194678 0 14209 194679 0 23648 194680 0 23662 194681 0 23744 194682 0
    23693 194683 0 138724 194684 0 23875 194685 0 138726 194686 0 23918 194687 0 23915 194688 0
    23932 194689 1 24033 194691 0 14383 194692 0 24061 194693 0 24104 194694 0 24125 194695 0
    24169 194696 0 14434 194697 0 139651 194698 0 14460 194699 0 24240 194700 0 24243 194701 0
    24246 194702 0 24266 194703 0 172946 194704 0 24318 194705 0 140081 194706 0 140081 194707 0
    33281 194708 0 24354 194709 0 24354 194710 0 14535 194711 0 144056 194712 0 156122 194713 0
    24418 194714 0 24427 194715 0 14563 194716 0 24474 194717 0 24525 194718 0 24535 194719 0
    24569 194720 0 24705 194721 0 14650 194722 0 14620 194723 0 24724 194724 0 141012 194725 0
    24775 194726 0 24904 194727 0 24908 194728 0 24910 194729 0 24908 194730 0 24954 194731 0
    24974 194732 0 25010 194733 0 24996 194734 0 25007 194735 0 25054 194736 0 25074 194737 0
    25078 194738 0 25104 194739 0 25115 194740 0 25181 194741 0 25265 194742 0 25300 194743 0
    25424 194744 0 142092 194745 0 25405 194746 0 25340 194747 0 25448 194748 0 25475 194749 0
    25572 194750 0 142321 194751 0 25634 194752 0 25541 194753 0 25513 194754 0 14894 194755 0
    25705 194756 0 25726 194757 0 25757 194758 0 25719 194759 0 14956 194760 0 25935 194761 0
    25964 194762 0 143370 194763 0 26083 194764 0 26360 194765 0 26185 194766 0 15129 194767 0
    26257 194768 0 15112 194769 0 15076 194770 0 20882 194771 0 20885 194772 0 26368 194773 0
    26268 194774 0 32941 194775 0 17369 194776 0 26391 194777 0 26395 194778 0 26401 194779 0
    26462 194780 0 26451 194781 0 144323 194782 0 15177 194783 0 26618 194784 0 26501 194785 0
    26706 194786 0 26757 194787 0 144493 194788 0 26766 194789 0 26655 194790 0 26900 194791 0
    15261 194792 0 26946 194793 0 27043 194794 0 27114 194795 0 27304 194796 0 145059 194797 0
    27355 194798 0 15384 194799 0 27425 194800 0 145575 194801 0 27476 194802 0 15438 194803 0
    27506 194804 0 27551 194805 1 27578 194807 0 146061 194808 0 138507 194809 0 146170 194810 0
    27726 194811 0 146620 194812 0 27839 194813 0 27853 194814 0 27751 194815 0 27926 194816 0
    27966 194817 0 28023 194818 0 27969 194819 0 28009 194820 0 28024 194821 0 28037 194822 0
    146718 194823 0 27956 194824 0 28207 194825 0 28270 194826 0 15667 194827 0 28363 194828 0
    28359 194829 0 147153 194830 0 28153 194831 0 28526 194832 0 147294 194833 0 147342 194834 0
    28614 194835 0 28729 194836 0 28702 194837 0 28699 194838 0 15766 194839 0 28746 194840 0
    28797 194841 0 28791 194842 0 28845 194843 0 132389 194844 0 28997 194845 0 148067 194846 0
    29084 194847 0 148395 194848 0 29224 194849 0 29237 194850 0 29264 194851 0 149000 194852 0
    29312 194853 0 29333 194854 0 149301 194855 0 149524 194856 0 29562 194857 0 29579 194858 0
    16044 194859 0 29605 194860 0 16056 194861 0 16056 194862 0 29767 194863 0 29788 194864 0
    29809 194865 0 29829 194866 0 29898 194867 0 16155 194868 0 29988 194869 0 150582 194870 0
    30014 194871 0 150674 194872 0 30064 194873 0 139679 194874 0 30224 194875 0 151457 194876 0
    151480 194877 0 151620 194878 0 16380 194879 0 16392 194880 0 30452 194881 0 151795 194882 0
    151794 194883 0 151833 194884 0 151859 194885 1 30494 194887 0 30495 194888 0 30538 194889 0
    16441 194890 0 30603 194891 0 16454 194892 0 16534 194893 0 152605 194894 0 30798 194895 0
    30860 194896 0 30924 194897 0 16611 194898 0 153126 194899 0 31062 194900 0 153242 194901 0
    153285 194902 0 31119 194903 0 31211 194904 0 16687 194905 0 31296 194906 0 31306 194907 0
    31311 194908 0 153980 194909 0 154279 194910 0 154279 194911 0 31470 194912 0 16898 194913 0
    154539 194914 0 31686 194915 0 31689 194916 0 16935 194917 0 154752 194918 0 31954 194919 0
    17056 194920 0 31976 194921 0 31971 194922 0 32000 194923 0 155526 194924 0 32099 194925 0
    17153 194926 0 32199 194927 0 32258 194928 0 32325 194929 0 17204 194930 0 156200 194931 0
    156231 194932 0 17241 194933 0 156377 194934 0 32634 194935 0 156478 194936 0 32661 194937 0
    32762 194938 0 32773 194939 0 156890 194940 0 156963 194941 0 32864 194942 0 157096 194943 0
    32880 194944 0 144223 194945 0 17365 194946 0 32946 194947 0 33027 194948 0 17419 194949 0
    33086 194950 0 23221 194951 0 157607 194952 0 157621 194953 0 144275 194954 0 144284 194955
    0 33281 194956 0 33284 194957 0 36766 194958 0 17515 194959 0 33425 194960 0 33419 194961 0
    33437 194962 0 21171 194963 0 33457 194964 0 33459 194965 0 33469 194966 0 33510 194967 0
    158524 194968 0 33509 194969 0 33565 194970 0 33635 194971 0 33709 194972 0 33571 194973 0
    33725 194974 0 33767 194975 0 33879 194976 0 33619 194977 0 33738 194978 0 33740 194979 0
    33756 194980 0 158774 194981 0 159083 194982 0 158933 194983 0 17707 194984 0 34033 194985 0
    34035 194986 0 34070 194987 0 160714 194988 0 34148 194989 0 159532 194990 0 17757 194991 0
    17761 194992 0 159665 194993 0 159954 194994 0 17771 194995 0 34384 194996 0 34396 194997 0
    34407 194998 0 34409 194999 0 34473 195000 0 34440 195001 0 34574 195002 0 34530 195003 0
    34681 195004 0 34600 195005 0 34667 195006 0 34694 195007 0 17879 195008 0 34785 195009 0
    34817 195010 0 17913 195011 0 34912 195012 0 34915 195013 0 161383 195014 0 35031 195015 0
    35038 195016 0 17973 195017 0 35066 195018 0 13499 195019 0 161966 195020 0 162150 195021 0
    18110 195022 0 18119 195023 0 35488 195024 0 35565 195025 0 35722 195026 0 35925 195027 0
    162984 195028 0 36011 195029 0 36033 195030 0 36123 195031 0 36215 195032 0 163631 195033 0
    133124 195034 0 36299 195035 0 36284 195036 0 36336 195037 0 133342 195038 0 36564 195039 0
    36664 195040 0 165330 195041 0 165357 195042 0 37012 195043 0 37105 195044 0 37137 195045 0
    165678 195046 0 37147 195047 0 37432 195048 1 37591 195050 0 37500 195051 0 37881 195052 0
    37909 195053 0 166906 195054 0 38283 195055 0 18837 195056 0 38327 195057 0 167287 195058 0
    18918 195059 0 38595 195060 0 23986 195061 0 38691 195062 0 168261 195063 0 168474 195064 0
    19054 195065 0 19062 195066 0 38880 195067 0 168970 195068 0 19122 195069 0 169110 195070 0
    38923 195071 0 38923 195072 0 38953 195073 0 169398 195074 0 39138 195075 0 19251 195076 0
    39209 195077 0 39335 195078 0 39362 195079 0 39422 195080 0 19406 195081 0 170800 195082 0
    39698 195083 0 40000 195084 0 40189 195085 0 19662 195086 0 19693 195087 0 40295 195088 0
    172238 195089 0 19704 195090 0 172293 195091 0 172558 195092 0 172689 195093 0 40635 195094
    0 19798 195095 0 40697 195096 0 40702 195097 0 40709 195098 0 40719 195099 0 40726 195100 0
    40763 195101 0 173568"

/-- Entries `character length image…` of characters with a longer decomposition. -/
def foldWide : List Nat := RangeTable.numbers
  "192 2 65 768 193 2 65 769 194 2 65 770 195 2 65 771 196 2 65 776 197 2 65 778 199 2 67 807
    200 2 69 768 201 2 69 769 202 2 69 770 203 2 69 776 204 2 73 768 205 2 73 769 206 2 73 770
    207 2 73 776 209 2 78 771 210 2 79 768 211 2 79 769 212 2 79 770 213 2 79 771 214 2 79 776
    217 2 85 768 218 2 85 769 219 2 85 770 220 2 85 776 221 2 89 769 224 2 97 768 225 2 97 769
    226 2 97 770 227 2 97 771 228 2 97 776 229 2 97 778 231 2 99 807 232 2 101 768 233 2 101 769
    234 2 101 770 235 2 101 776 236 2 105 768 237 2 105 769 238 2 105 770 239 2 105 776 241 2
    110 771 242 2 111 768 243 2 111 769 244 2 111 770 245 2 111 771 246 2 111 776 249 2 117 768
    250 2 117 769 251 2 117 770 252 2 117 776 253 2 121 769 255 2 121 776 256 2 65 772 257 2 97
    772 258 2 65 774 259 2 97 774 260 2 65 808 261 2 97 808 262 2 67 769 263 2 99 769 264 2 67
    770 265 2 99 770 266 2 67 775 267 2 99 775 268 2 67 780 269 2 99 780 270 2 68 780 271 2 100
    780 274 2 69 772 275 2 101 772 276 2 69 774 277 2 101 774 278 2 69 775 279 2 101 775 280 2
    69 808 281 2 101 808 282 2 69 780 283 2 101 780 284 2 71 770 285 2 103 770 286 2 71 774 287
    2 103 774 288 2 71 775 289 2 103 775 290 2 71 807 291 2 103 807 292 2 72 770 293 2 104 770
    296 2 73 771 297 2 105 771 298 2 73 772 299 2 105 772 300 2 73 774 301 2 105 774 302 2 73
    808 303 2 105 808 304 2 73 775 306 2 73 74 307 2 105 106 308 2 74 770 309 2 106 770 310 2 75
    807 311 2 107 807 313 2 76 769 314 2 108 769 315 2 76 807 316 2 108 807 317 2 76 780 318 2
    108 780 319 2 76 183 320 2 108 183 323 2 78 769 324 2 110 769 325 2 78 807 326 2 110 807 327
    2 78 780 328 2 110 780 329 2 700 110 332 2 79 772 333 2 111 772 334 2 79 774 335 2 111 774
    336 2 79 779 337 2 111 779 340 2 82 769 341 2 114 769 342 2 82 807 343 2 114 807 344 2 82
    780 345 2 114 780 346 2 83 769 347 2 115 769 348 2 83 770 349 2 115 770 350 2 83 807 351 2
    115 807 352 2 83 780 353 2 115 780 354 2 84 807 355 2 116 807 356 2 84 780 357 2 116 780 360
    2 85 771 361 2 117 771 362 2 85 772 363 2 117 772 364 2 85 774 365 2 117 774 366 2 85 778
    367 2 117 778 368 2 85 779 369 2 117 779 370 2 85 808 371 2 117 808 372 2 87 770 373 2 119
    770 374 2 89 770 375 2 121 770 376 2 89 776 377 2 90 769 378 2 122 769 379 2 90 775 380 2
    122 775 381 2 90 780 382 2 122 780 416 2 79 795 417 2 111 795 431 2 85 795 432 2 117 795 452
    3 68 90 780 453 3 68 122 780 454 3 100 122 780 455 2 76 74 456 2 76 106 457 2 108 106 458 2
    78 74 459 2 78 106 460 2 110 106 461 2 65 780 462 2 97 780 463 2 73 780 464 2 105 780 465 2
    79 780 466 2 111 780 467 2 85 780 468 2 117 780 469 3 85 776 772 470 3 117 776 772 471 3 85
    776 769 472 3 117 776 769 473 3 85 776 780 474 3 117 776 780 475 3 85 776 768 476 3 117 776
    768 478 3 65 776 772 479 3 97 776 772 480 3 65 775 772 481 3 97 775 772 482 2 198 772 483 2
    230 772 486 2 71 780 487 2 103 780 488 2 75 780 489 2 107 780 490 2 79 808 491 2 111 808 492
    3 79 808 772 493 3 111 808 772 494 2 439 780 495 2 658 780 496 2 106 780 497 2 68 90 498 2
    68 122 499 2 100 122 500 2 71 769 501 2 103 769 504 2 78 768 505 2 110 768 506 3 65 778 769
    507 3 97 778 769 508 2 198 769 509 2 230 769 510 2 216 769 511 2 248 769 512 2 65 783 513 2
    97 783 514 2 65 785 515 2 97 785 516 2 69 783 517 2 101 783 518 2 69 785 519 2 101 785 520 2
    73 783 521 2 105 783 522 2 73 785 523 2 105 785 524 2 79 783 525 2 111 783 526 2 79 785 527
    2 111 785 528 2 82 783 529 2 114 783 530 2 82 785 531 2 114 785 532 2 85 783 533 2 117 783
    534 2 85 785 535 2 117 785 536 2 83 806 537 2 115 806 538 2 84 806 539 2 116 806 542 2 72
    780 543 2 104 780 550 2 65 775 551 2 97 775 552 2 69 807 553 2 101 807 554 3 79 776 772 555
    3 111 776 772 556 3 79 771 772 557 3 111 771 772 558 2 79 775 559 2 111 775 560 3 79 775 772
    561 3 111 775 772 562 2 89 772 563 2 121 772 836 2 776 769 902 2 913 769 904 2 917 769 905 2
    919 769 906 2 921 769 908 2 927 769 910 2 933 769 911 2 937 769 912 3 953 776 769 938 2 921
    776 939 2 933 776 940 2 945 769 941 2 949 769 942 2 951 769 943 2 953 769 944 3 965 776 769
    970 2 953 776 971 2 965 776 972 2 959 769 973 2 965 769 974 2 969 769 979 2 933 769 980 2
    933 776 1024 2 1045 768 1025 2 1045 776 1027 2 1043 769 1031 2 1030 776 1036 2 1050 769 1037
    2 1048 768 1038 2 1059 774 1049 2 1048 774 1081 2 1080 774 1104 2 1077 768 1105 2 1077 776
    1107 2 1075 769 1111 2 1110 776 1116 2 1082 769 1117 2 1080 768 1118 2 1091 774 1142 2 1140
    783 1143 2 1141 783 1217 2 1046 774 1218 2 1078 774 1232 2 1040 774 1233 2 1072 774 1234 2
    1040 776 1235 2 1072 776 1238 2 1045 774 1239 2 1077 774 1242 2 1240 776 1243 2 1241 776
    1244 2 1046 776 1245 2 1078 776 1246 2 1047 776 1247 2 1079 776 1250 2 1048 772 1251 2 1080
    772 1252 2 1048 776 1253 2 1080 776 1254 2 1054 776 1255 2 1086 776 1258 2 1256 776 1259 2
    1257 776 1260 2 1069 776 1261 2 1101 776 1262 2 1059 772 1263 2 1091 772 1264 2 1059 776
    1265 2 1091 776 1266 2 1059 779 1267 2 1091 779 1268 2 1063 776 1269 2 1095 776 1272 2 1067
    776 1273 2 1099 776 1415 2 1381 1410 1570 2 1575 1619 1571 2 1575 1620 1572 2 1608 1620 1573
    2 1575 1621 1574 2 1610 1620 1653 2 1575 1652 1654 2 1608 1652 1655 2 1735 1652 1656 2 1610
    1652 1728 2 1749 1620 1730 2 1729 1620 1747 2 1746 1620 2345 2 2344 2364 2353 2 2352 2364
    2356 2 2355 2364 2392 2 2325 2364 2393 2 2326 2364 2394 2 2327 2364 2395 2 2332 2364 2396 2
    2337 2364 2397 2 2338 2364 2398 2 2347 2364 2399 2 2351 2364 2507 2 2503 2494 2508 2 2503
    2519 2524 2 2465 2492 2525 2 2466 2492 2527 2 2479 2492 2611 2 2610 2620 2614 2 2616 2620
    2649 2 2582 2620 2650 2 2583 2620 2651 2 2588 2620 2654 2 2603 2620 2888 2 2887 2902 2891 2
    2887 2878 2892 2 2887 2903 2908 2 2849 2876 2909 2 2850 2876 2964 2 2962 3031 3018 2 3014
    3006 3019 2 3015 3006 3020 2 3014 3031 3144 2 3142 3158 3264 2 3263 3285 3271 2 3270 3285
    3272 2 3270 3286 3274 2 3270 3266 3275 3 3270 3266 3285 3402 2 3398 3390 3403 2 3399 3390
    3404 2 3398 3415 3546 2 3545 3530 3548 2 3545 3535 3549 3 3545 3535 3530 3550 2 3545 3551
    3635 2 3661 3634 3763 2 3789 3762 3804 2 3755 3737 3805 2 3755 3745 3907 2 3906 4023 3917 2
    3916 4023 3922 2 3921 4023 3927 2 3926 4023 3932 2 3931 4023 3945 2 3904 4021 3955 2 3953
    3954 3957 2 3953 3956 3958 2 4018 3968 3959 3 4018 3953 3968 3960 2 4019 3968 3961 3 4019
    3953 3968 3969 2 3953 3968 3987 2 3986 4023 3997 2 3996 4023 4002 2 4001 4023 4007 2 4006
    4023 4012 2 4011 4023 4025 2 3984 4021 4134 2 4133 4142 6918 2 6917 6965 6920 2 6919 6965
    6922 2 6921 6965 6924 2 6923 6965 6926 2 6925 6965 6930 2 6929 6965 6971 2 6970 6965 6973 2
    6972 6965 6976 2 6974 6965 6977 2 6975 6965 6979 2 6978 6965 7680 2 65 805 7681 2 97 805
    7682 2 66 775 7683 2 98 775 7684 2 66 803 7685 2 98 803 7686 2 66 817 7687 2 98 817 7688 3
    67 807 769 7689 3 99 807 769 7690 2 68 775 7691 2 100 775 7692 2 68 803 7693 2 100 803 7694
    2 68 817 7695 2 100 817 7696 2 68 807 7697 2 100 807 7698 2 68 813 7699 2 100 813 7700 3 69
    772 768 7701 3 101 772 768 7702 3 69 772 769 7703 3 101 772 769 7704 2 69 813 7705 2 101 813
    7706 2 69 816 7707 2 101 816 7708 3 69 807 774 7709 3 101 807 774 7710 2 70 775 7711 2 102
    775 7712 2 71 772 7713 2 103 772 7714 2 72 775 7715 2 104 775 7716 2 72 803 7717 2 104 803
    7718 2 72 776 7719 2 104 776 7720 2 72 807 7721 2 104 807 7722 2 72 814 7723 2 104 814 7724
    2 73 816 7725 2 105 816 7726 3 73 776 769 7727 3 105 776 769 7728 2 75 769 7729 2 107 769
    7730 2 75 803 7731 2 107 803 7732 2 75 817 7733 2 107 817 7734 2 76 803 7735 2 108 803 7736
    3 76 803 772 7737 3 108 803 772 7738 2 76 817 7739 2 108 817 7740 2 76 813 7741 2 108 813
    7742 2 77 769 7743 2 109 769 7744 2 77 775 7745 2 109 775 7746 2 77 803 7747 2 109 803 7748
    2 78 775 7749 2 110 775 7750 2 78 803 7751 2 110 803 7752 2 78 817 7753 2 110 817 7754 2 78
    813 7755 2 110 813 7756 3 79 771 769 7757 3 111 771 769 7758 3 79 771 776 7759 3 111 771 776
    7760 3 79 772 768 7761 3 111 772 768 7762 3 79 772 769 7763 3 111 772 769 7764 2 80 769 7765
    2 112 769 7766 2 80 775 7767 2 112 775 7768 2 82 775 7769 2 114 775 7770 2 82 803 7771 2 114
    803 7772 3 82 803 772 7773 3 114 803 772 7774 2 82 817 7775 2 114 817 7776 2 83 775 7777 2
    115 775 7778 2 83 803 7779 2 115 803 7780 3 83 769 775 7781 3 115 769 775 7782 3 83 780 775
    7783 3 115 780 775 7784 3 83 803 775 7785 3 115 803 775 7786 2 84 775 7787 2 116 775 7788 2
    84 803 7789 2 116 803 7790 2 84 817 7791 2 116 817 7792 2 84 813 7793 2 116 813 7794 2 85
    804 7795 2 117 804 7796 2 85 816 7797 2 117 816 7798 2 85 813 7799 2 117 813 7800 3 85 771
    769 7801 3 117 771 769 7802 3 85 772 776 7803 3 117 772 776 7804 2 86 771 7805 2 118 771
    7806 2 86 803 7807 2 118 803 7808 2 87 768 7809 2 119 768 7810 2 87 769 7811 2 119 769 7812
    2 87 776 7813 2 119 776 7814 2 87 775 7815 2 119 775 7816 2 87 803 7817 2 119 803 7818 2 88
    775 7819 2 120 775 7820 2 88 776 7821 2 120 776 7822 2 89 775 7823 2 121 775 7824 2 90 770
    7825 2 122 770 7826 2 90 803 7827 2 122 803 7828 2 90 817 7829 2 122 817 7830 2 104 817 7831
    2 116 776 7832 2 119 778 7833 2 121 778 7834 2 97 702 7835 2 115 775 7840 2 65 803 7841 2 97
    803 7842 2 65 777 7843 2 97 777 7844 3 65 770 769 7845 3 97 770 769 7846 3 65 770 768 7847 3
    97 770 768 7848 3 65 770 777 7849 3 97 770 777 7850 3 65 770 771 7851 3 97 770 771 7852 3 65
    803 770 7853 3 97 803 770 7854 3 65 774 769 7855 3 97 774 769 7856 3 65 774 768 7857 3 97
    774 768 7858 3 65 774 777 7859 3 97 774 777 7860 3 65 774 771 7861 3 97 774 771 7862 3 65
    803 774 7863 3 97 803 774 7864 2 69 803 7865 2 101 803 7866 2 69 777 7867 2 101 777 7868 2
    69 771 7869 2 101 771 7870 3 69 770 769 7871 3 101 770 769 7872 3 69 770 768 7873 3 101 770
    768 7874 3 69 770 777 7875 3 101 770 777 7876 3 69 770 771 7877 3 101 770 771 7878 3 69 803
    770 7879 3 101 803 770 7880 2 73 777 7881 2 105 777 7882 2 73 803 7883 2 105 803 7884 2 79
    803 7885 2 111 803 7886 2 79 777 7887 2 111 777 7888 3 79 770 769 7889 3 111 770 769 7890 3
    79 770 768 7891 3 111 770 768 7892 3 79 770 777 7893 3 111 770 777 7894 3 79 770 771 7895 3
    111 770 771 7896 3 79 803 770 7897 3 111 803 770 7898 3 79 795 769 7899 3 111 795 769 7900 3
    79 795 768 7901 3 111 795 768 7902 3 79 795 777 7903 3 111 795 777 7904 3 79 795 771 7905 3
    111 795 771 7906 3 79 795 803 7907 3 111 795 803 7908 2 85 803 7909 2 117 803 7910 2 85 777
    7911 2 117 777 7912 3 85 795 769 7913 3 117 795 769 7914 3 85 795 768 7915 3 117 795 768
    7916 3 85 795 777 7917 3 117 795 777 7918 3 85 795 771 7919 3 117 795 771 7920 3 85 795 803
    7921 3 117 795 803 7922 2 89 768 7923 2 121 768 7924 2 89 803 7925 2 121 803 7926 2 89 777
    7927 2 121 777 7928 2 89 771 7929 2 121 771 7936 2 945 787 7937 2 945 788 7938 3 945 787 768
    7939 3 945 788 768 7940 3 945 787 769 7941 3 945 788 769 7942 3 945 787 834 7943 3 945 788
    834 7944 2 913 787 7945 2 913 788 7946 3 913 787 768 7947 3 913 788 768 7948 3 913 787 769
    7949 3 913 788 769 7950 3 913 787 834 7951 3 913 788 834 7952 2 949 787 7953 2 949 788 7954
    3 949 787 768 7955 3 949 788 768 7956 3 949 787 769 7957 3 949 788 769 7960 2 917 787 7961 2
    917 788 7962 3 917 787 768 7963 3 917 788 768 7964 3 917 787 769 7965 3 917 788 769 7968 2
    951 787 7969 2 951 788 7970 3 951 787 768 7971 3 951 788 768 7972 3 951 787 769 7973 3 951
    788 769 7974 3 951 787 834 7975 3 951 788 834 7976 2 919 787 7977 2 919 788 7978 3 919 787
    768 7979 3 919 788 768 7980 3 919 787 769 7981 3 919 788 769 7982 3 919 787 834 7983 3 919
    788 834 7984 2 953 787 7985 2 953 788 7986 3 953 787 768 7987 3 953 788 768 7988 3 953 787
    769 7989 3 953 788 769 7990 3 953 787 834 7991 3 953 788 834 7992 2 921 787 7993 2 921 788
    7994 3 921 787 768 7995 3 921 788 768 7996 3 921 787 769 7997 3 921 788 769 7998 3 921 787
    834 7999 3 921 788 834 8000 2 959 787 8001 2 959 788 8002 3 959 787 768 8003 3 959 788 768
    8004 3 959 787 769 8005 3 959 788 769 8008 2 927 787 8009 2 927 788 8010 3 927 787 768 8011
    3 927 788 768 8012 3 927 787 769 8013 3 927 788 769 8016 2 965 787 8017 2 965 788 8018 3 965
    787 768 8019 3 965 788 768 8020 3 965 787 769 8021 3 965 788 769 8022 3 965 787 834 8023 3
    965 788 834 8025 2 933 788 8027 3 933 788 768 8029 3 933 788 769 8031 3 933 788 834 8032 2
    969 787 8033 2 969 788 8034 3 969 787 768 8035 3 969 788 768 8036 3 969 787 769 8037 3 969
    788 769 8038 3 969 787 834 8039 3 969 788 834 8040 2 937 787 8041 2 937 788 8042 3 937 787
    768 8043 3 937 788 768 8044 3 937 787 769 8045 3 937 788 769 8046 3 937 787 834 8047 3 937
    788 834 8048 2 945 768 8049 2 945 769 8050 2 949 768 8051 2 949 769 8052 2 951 768 8053 2
    951 769 8054 2 953 768 8055 2 953 769 8056 2 959 768 8057 2 959 769 8058 2 965 768 8059 2
    965 769 8060 2 969 768 8061 2 969 769 8064 3 945 787 837 8065 3 945 788 837 8066 4 945 787
    768 837 8067 4 945 788 768 837 8068 4 945 787 769 837 8069 4 945 788 769 837 8070 4 945 787
    834 837 8071 4 945 788 834 837 8072 3 913 787 837 8073 3 913 788 837 8074 4 913 787 768 837
    8075 4 913 788 768 837 8076 4 913 787 769 837 8077 4 913 788 769 837 8078 4 913 787 834 837
    8079 4 913 788 834 837 8080 3 951 787 837 8081 3 951 788 837 8082 4 951 787 768 837 8083 4
    951 788 768 837 8084 4 951 787 769 837 8085 4 951 788 769 837 8086 4 951 787 834 837 8087 4
    951 788 834 837 8088 3 919 787 837 8089 3 919 788 837 8090 4 919 787 768 837 8091 4 919 788
    768 837 8092 4 919 787 769 837 8093 4 919 788 769 837 8094 4 919 787 834 837 8095 4 919 788
    834 837 8096 3 969 787 837 8097 3 969 788 837 8098 4 969 787 768 837 8099 4 969 788 768 837
    8100 4 969 787 769 837 8101 4 969 788 769 837 8102 4 969 787 834 837 8103 4 969 788 834 837
    8104 3 937 787 837 8105 3 937 788 837 8106 4 937 787 768 837 8107 4 937 788 768 837 8108 4
    937 787 769 837 8109 4 937 788 769 837 8110 4 937 787 834 837 8111 4 937 788 834 837 8112 2
    945 774 8113 2 945 772 8114 3 945 768 837 8115 2 945 837 8116 3 945 769 837 8118 2 945 834
    8119 3 945 834 837 8120 2 913 774 8121 2 913 772 8122 2 913 768 8123 2 913 769 8124 2 913
    837 8130 3 951 768 837 8131 2 951 837 8132 3 951 769 837 8134 2 951 834 8135 3 951 834 837
    8136 2 917 768 8137 2 917 769 8138 2 919 768 8139 2 919 769 8140 2 919 837 8144 2 953 774
    8145 2 953 772 8146 3 953 776 768 8147 3 953 776 769 8150 2 953 834 8151 3 953 776 834 8152
    2 921 774 8153 2 921 772 8154 2 921 768 8155 2 921 769 8160 2 965 774 8161 2 965 772 8162 3
    965 776 768 8163 3 965 776 769 8164 2 961 787 8165 2 961 788 8166 2 965 834 8167 3 965 776
    834 8168 2 933 774 8169 2 933 772 8170 2 933 768 8171 2 933 769 8172 2 929 788 8178 3 969
    768 837 8179 2 969 837 8180 3 969 769 837 8182 2 969 834 8183 3 969 834 837 8184 2 927 768
    8185 2 927 769 8186 2 937 768 8187 2 937 769 8188 2 937 837 8491 2 65 778 8545 2 73 73 8546
    3 73 73 73 8547 2 73 86 8549 2 86 73 8550 3 86 73 73 8551 4 86 73 73 73 8552 2 73 88 8554 2
    88 73 8555 3 88 73 73 8561 2 105 105 8562 3 105 105 105 8563 2 105 118 8565 2 118 105 8566 3
    118 105 105 8567 4 118 105 105 105 8568 2 105 120 8570 2 120 105 8571 3 120 105 105 12364 2
    12363 12441 12366 2 12365 12441 12368 2 12367 12441 12370 2 12369 12441 12372 2 12371 12441
    12374 2 12373 12441 12376 2 12375 12441 12378 2 12377 12441 12380 2 12379 12441 12382 2
    12381 12441 12384 2 12383 12441 12386 2 12385 12441 12389 2 12388 12441 12391 2 12390 12441
    12393 2 12392 12441 12400 2 12399 12441 12401 2 12399 12442 12403 2 12402 12441 12404 2
    12402 12442 12406 2 12405 12441 12407 2 12405 12442 12409 2 12408 12441 12410 2 12408 12442
    12412 2 12411 12441 12413 2 12411 12442 12436 2 12358 12441 12446 2 12445 12441 12447 2
    12424 12426 12460 2 12459 12441 12462 2 12461 12441 12464 2 12463 12441 12466 2 12465 12441
    12468 2 12467 12441 12470 2 12469 12441 12472 2 12471 12441 12474 2 12473 12441 12476 2
    12475 12441 12478 2 12477 12441 12480 2 12479 12441 12482 2 12481 12441 12485 2 12484 12441
    12487 2 12486 12441 12489 2 12488 12441 12496 2 12495 12441 12497 2 12495 12442 12499 2
    12498 12441 12500 2 12498 12442 12502 2 12501 12441 12503 2 12501 12442 12505 2 12504 12441
    12506 2 12504 12442 12508 2 12507 12441 12509 2 12507 12442 12532 2 12454 12441 12535 2
    12527 12441 12536 2 12528 12441 12537 2 12529 12441 12538 2 12530 12441 12542 2 12541 12441
    12543 2 12467 12488 64256 2 102 102 64257 2 102 105 64258 2 102 108 64259 3 102 102 105
    64260 3 102 102 108 64261 2 115 116 64262 2 115 116 64275 2 1396 1398 64276 2 1396 1381
    64277 2 1396 1387 64278 2 1406 1398 64279 2 1396 1389 64285 2 1497 1460 64287 2 1522 1463
    64298 2 1513 1473 64299 2 1513 1474 64300 3 1513 1468 1473 64301 3 1513 1468 1474 64302 2
    1488 1463 64303 2 1488 1464 64304 2 1488 1468 64305 2 1489 1468 64306 2 1490 1468 64307 2
    1491 1468 64308 2 1492 1468 64309 2 1493 1468 64310 2 1494 1468 64312 2 1496 1468 64313 2
    1497 1468 64314 2 1498 1468 64315 2 1499 1468 64316 2 1500 1468 64318 2 1502 1468 64320 2
    1504 1468 64321 2 1505 1468 64323 2 1507 1468 64324 2 1508 1468 64326 2 1510 1468 64327 2
    1511 1468 64328 2 1512 1468 64329 2 1513 1468 64330 2 1514 1468 64331 2 1493 1465 64332 2
    1489 1471 64333 2 1499 1471 64334 2 1508 1471 64335 2 1488 1500 64420 2 1749 1620 64421 2
    1749 1620 64432 2 1746 1620 64433 2 1746 1620 64477 2 1735 1652 64490 3 1610 1620 1575 64491
    3 1610 1620 1575 64492 3 1610 1620 1749 64493 3 1610 1620 1749 64494 3 1610 1620 1608 64495
    3 1610 1620 1608 64496 3 1610 1620 1735 64497 3 1610 1620 1735 64498 3 1610 1620 1734 64499
    3 1610 1620 1734 64500 3 1610 1620 1736 64501 3 1610 1620 1736 64502 3 1610 1620 1744 64503
    3 1610 1620 1744 64504 3 1610 1620 1744 64505 3 1610 1620 1609 64506 3 1610 1620 1609 64507
    3 1610 1620 1609 64512 3 1610 1620 1580 64513 3 1610 1620 1581 64514 3 1610 1620 1605 64515
    3 1610 1620 1609 64516 3 1610 1620 1610 64517 2 1576 1580 64518 2 1576 1581 64519 2 1576
    1582 64520 2 1576 1605 64521 2 1576 1609 64522 2 1576 1610 64523 2 1578 1580 64524 2 1578
    1581 64525 2 1578 1582 64526 2 1578 1605 64527 2 1578 1609 64528 2 1578 1610 64529 2 1579
    1580 64530 2 1579 1605 64531 2 1579 1609 64532 2 1579 1610 64533 2 1580 1581 64534 2 1580
    1605 64535 2 1581 1580 64536 2 1581 1605 64537 2 1582 1580 64538 2 1582 1581 64539 2 1582
    1605 64540 2 1587 1580 64541 2 1587 1581 64542 2 1587 1582 64543 2 1587 1605 64544 2 1589
    1581 64545 2 1589 1605 64546 2 1590 1580 64547 2 1590 1581 64548 2 1590 1582 64549 2 1590
    1605 64550 2 1591 1581 64551 2 1591 1605 64552 2 1592 1605 64553 2 1593 1580 64554 2 1593
    1605 64555 2 1594 1580 64556 2 1594 1605 64557 2 1601 1580 64558 2 1601 1581 64559 2 1601
    1582 64560 2 1601 1605 64561 2 1601 1609 64562 2 1601 1610 64563 2 1602 1581 64564 2 1602
    1605 64565 2 1602 1609 64566 2 1602 1610 64567 2 1603 1575 64568 2 1603 1580 64569 2 1603
    1581 64570 2 1603 1582 64571 2 1603 1604 64572 2 1603 1605 64573 2 1603 1609 64574 2 1603
    1610 64575 2 1604 1580 64576 2 1604 1581 64577 2 1604 1582 64578 2 1604 1605 64579 2 1604
    1609 64580 2 1604 1610 64581 2 1605 1580 64582 2 1605 1581 64583 2 1605 1582 64584 2 1605
    1605 64585 2 1605 1609 64586 2 1605 1610 64587 2 1606 1580 64588 2 1606 1581 64589 2 1606
    1582 64590 2 1606 1605 64591 2 1606 1609 64592 2 1606 1610 64593 2 1607 1580 64594 2 1607
    1605 64595 2 1607 1609 64596 2 1607 1610 64597 2 1610 1580 64598 2 1610 1581 64599 2 1610
    1582 64600 2 1610 1605 64601 2 1610 1609 64602 2 1610 1610 64603 2 1584 1648 64604 2 1585
    1648 64605 2 1609 1648 64612 3 1610 1620 1585 64613 3 1610 1620 1586 64614 3 1610 1620 1605
    64615 3 1610 1620 1606 64616 3 1610 1620 1609 64617 3 1610 1620 1610 64618 2 1576 1585 64619
    2 1576 1586 64620 2 1576 1605 64621 2 1576 1606 64622 2 1576 1609 64623 2 1576 1610 64624 2
    1578 1585 64625 2 1578 1586 64626 2 1578 1605 64627 2 1578 1606 64628 2 1578 1609 64629 2
    1578 1610 64630 2 1579 1585 64631 2 1579 1586 64632 2 1579 1605 64633 2 1579 1606 64634 2
    1579 1609 64635 2 1579 1610 64636 2 1601 1609 64637 2 1601 1610 64638 2 1602 1609 64639 2
    1602 1610 64640 2 1603 1575 64641 2 1603 1604 64642 2 1603 1605 64643 2 1603 1609 64644 2
    1603 1610 64645 2 1604 1605 64646 2 1604 1609 64647 2 1604 1610 64648 2 1605 1575 64649 2
    1605 1605 64650 2 1606 1585 64651 2 1606 1586 64652 2 1606 1605 64653 2 1606 1606 64654 2
    1606 1609 64655 2 1606 1610 64656 2 1609 1648 64657 2 1610 1585 64658 2 1610 1586 64659 2
    1610 1605 64660 2 1610 1606 64661 2 1610 1609 64662 2 1610 1610 64663 3 1610 1620 1580 64664
    3 1610 1620 1581 64665 3 1610 1620 1582 64666 3 1610 1620 1605 64667 3 1610 1620 1607 64668
    2 1576 1580 64669 2 1576 1581 64670 2 1576 1582 64671 2 1576 1605 64672 2 1576 1607 64673 2
    1578 1580 64674 2 1578 1581 64675 2 1578 1582 64676 2 1578 1605 64677 2 1578 1607 64678 2
    1579 1605 64679 2 1580 1581 64680 2 1580 1605 64681 2 1581 1580 64682 2 1581 1605 64683 2
    1582 1580 64684 2 1582 1605 64685 2 1587 1580 64686 2 1587 1581 64687 2 1587 1582 64688 2
    1587 1605 64689 2 1589 1581 64690 2 1589 1582 64691 2 1589 1605 64692 2 1590 1580 64693 2
    1590 1581 64694 2 1590 1582 64695 2 1590 1605 64696 2 1591 1581 64697 2 1592 1605 64698 2
    1593 1580 64699 2 1593 1605 64700 2 1594 1580 64701 2 1594 1605 64702 2 1601 1580 64703 2
    1601 1581 64704 2 1601 1582 64705 2 1601 1605 64706 2 1602 1581 64707 2 1602 1605 64708 2
    1603 1580 64709 2 1603 1581 64710 2 1603 1582 64711 2 1603 1604 64712 2 1603 1605 64713 2
    1604 1580 64714 2 1604 1581 64715 2 1604 1582 64716 2 1604 1605 64717 2 1604 1607 64718 2
    1605 1580 64719 2 1605 1581 64720 2 1605 1582 64721 2 1605 1605 64722 2 1606 1580 64723 2
    1606 1581 64724 2 1606 1582 64725 2 1606 1605 64726 2 1606 1607 64727 2 1607 1580 64728 2
    1607 1605 64729 2 1607 1648 64730 2 1610 1580 64731 2 1610 1581 64732 2 1610 1582 64733 2
    1610 1605 64734 2 1610 1607 64735 3 1610 1620 1605 64736 3 1610 1620 1607 64737 2 1576 1605
    64738 2 1576 1607 64739 2 1578 1605 64740 2 1578 1607 64741 2 1579 1605 64742 2 1579 1607
    64743 2 1587 1605 64744 2 1587 1607 64745 2 1588 1605 64746 2 1588 1607 64747 2 1603 1604
    64748 2 1603 1605 64749 2 1604 1605 64750 2 1606 1605 64751 2 1606 1607 64752 2 1610 1605
    64753 2 1610 1607 64754 3 1600 1614 1617 64755 3 1600 1615 1617 64756 3 1600 1616 1617 64757
    2 1591 1609 64758 2 1591 1610 64759 2 1593 1609 64760 2 1593 1610 64761 2 1594 1609 64762 2
    1594 1610 64763 2 1587 1609 64764 2 1587 1610 64765 2 1588 1609 64766 2 1588 1610 64767 2
    1581 1609 64768 2 1581 1610 64769 2 1580 1609 64770 2 1580 1610 64771 2 1582 1609 64772 2
    1582 1610 64773 2 1589 1609 64774 2 1589 1610 64775 2 1590 1609 64776 2 1590 1610 64777 2
    1588 1580 64778 2 1588 1581 64779 2 1588 1582 64780 2 1588 1605 64781 2 1588 1585 64782 2
    1587 1585 64783 2 1589 1585 64784 2 1590 1585 64785 2 1591 1609 64786 2 1591 1610 64787 2
    1593 1609 64788 2 1593 1610 64789 2 1594 1609 64790 2 1594 1610 64791 2 1587 1609 64792 2
    1587 1610 64793 2 1588 1609 64794 2 1588 1610 64795 2 1581 1609 64796 2 1581 1610 64797 2
    1580 1609 64798 2 1580 1610 64799 2 1582 1609 64800 2 1582 1610 64801 2 1589 1609 64802 2
    1589 1610 64803 2 1590 1609 64804 2 1590 1610 64805 2 1588 1580 64806 2 1588 1581 64807 2
    1588 1582 64808 2 1588 1605 64809 2 1588 1585 64810 2 1587 1585 64811 2 1589 1585 64812 2
    1590 1585 64813 2 1588 1580 64814 2 1588 1581 64815 2 1588 1582 64816 2 1588 1605 64817 2
    1587 1607 64818 2 1588 1607 64819 2 1591 1605 64820 2 1587 1580 64821 2 1587 1581 64822 2
    1587 1582 64823 2 1588 1580 64824 2 1588 1581 64825 2 1588 1582 64826 2 1591 1605 64827 2
    1592 1605 64828 2 1575 1611 64829 2 1575 1611 64848 3 1578 1580 1605 64849 3 1578 1581 1580
    64850 3 1578 1581 1580 64851 3 1578 1581 1605 64852 3 1578 1582 1605 64853 3 1578 1605 1580
    64854 3 1578 1605 1581 64855 3 1578 1605 1582 64856 3 1580 1605 1581 64857 3 1580 1605 1581
    64858 3 1581 1605 1610 64859 3 1581 1605 1609 64860 3 1587 1581 1580 64861 3 1587 1580 1581
    64862 3 1587 1580 1609 64863 3 1587 1605 1581 64864 3 1587 1605 1581 64865 3 1587 1605 1580
    64866 3 1587 1605 1605 64867 3 1587 1605 1605 64868 3 1589 1581 1581 64869 3 1589 1581 1581
    64870 3 1589 1605 1605 64871 3 1588 1581 1605 64872 3 1588 1581 1605 64873 3 1588 1580 1610
    64874 3 1588 1605 1582 64875 3 1588 1605 1582 64876 3 1588 1605 1605 64877 3 1588 1605 1605
    64878 3 1590 1581 1609 64879 3 1590 1582 1605 64880 3 1590 1582 1605 64881 3 1591 1605 1581
    64882 3 1591 1605 1581 64883 3 1591 1605 1605 64884 3 1591 1605 1610 64885 3 1593 1580 1605
    64886 3 1593 1605 1605 64887 3 1593 1605 1605 64888 3 1593 1605 1609 64889 3 1594 1605 1605
    64890 3 1594 1605 1610 64891 3 1594 1605 1609 64892 3 1601 1582 1605 64893 3 1601 1582 1605
    64894 3 1602 1605 1581 64895 3 1602 1605 1605 64896 3 1604 1581 1605 64897 3 1604 1581 1610
    64898 3 1604 1581 1609 64899 3 1604 1580 1580 64900 3 1604 1580 1580 64901 3 1604 1582 1605
    64902 3 1604 1582 1605 64903 3 1604 1605 1581 64904 3 1604 1605 1581 64905 3 1605 1581 1580
    64906 3 1605 1581 1605 64907 3 1605 1581 1610 64908 3 1605 1580 1581 64909 3 1605 1580 1605
    64910 3 1605 1582 1580 64911 3 1605 1582 1605 64914 3 1605 1580 1582 64915 3 1607 1605 1580
    64916 3 1607 1605 1605 64917 3 1606 1581 1605 64918 3 1606 1581 1609 64919 3 1606 1580 1605
    64920 3 1606 1580 1605 64921 3 1606 1580 1609 64922 3 1606 1605 1610 64923 3 1606 1605 1609
    64924 3 1610 1605 1605 64925 3 1610 1605 1605 64926 3 1576 1582 1610 64927 3 1578 1580 1610
    64928 3 1578 1580 1609 64929 3 1578 1582 1610 64930 3 1578 1582 1609 64931 3 1578 1605 1610
    64932 3 1578 1605 1609 64933 3 1580 1605 1610 64934 3 1580 1581 1609 64935 3 1580 1605 1609
    64936 3 1587 1582 1609 64937 3 1589 1581 1610 64938 3 1588 1581 1610 64939 3 1590 1581 1610
    64940 3 1604 1580 1610 64941 3 1604 1605 1610 64942 3 1610 1581 1610 64943 3 1610 1580 1610
    64944 3 1610 1605 1610 64945 3 1605 1605 1610 64946 3 1602 1605 1610 64947 3 1606 1581 1610
    64948 3 1602 1605 1581 64949 3 1604 1581 1605 64950 3 1593 1605 1610 64951 3 1603 1605 1610
    64952 3 1606 1580 1581 64953 3 1605 1582 1610 64954 3 1604 1580 1605 64955 3 1603 1605 1605
    64956 3 1604 1580 1605 64957 3 1606 1580 1581 64958 3 1580 1581 1610 64959 3 1581 1580 1610
    64960 3 1605 1580 1610 64961 3 1601 1605 1610 64962 3 1576 1581 1610 64963 3 1603 1605 1605
    64964 3 1593 1580 1605 64965 3 1589 1605 1605 64966 3 1587 1582 1610 64967 3 1606 1580 1610
    65008 3 1589 1604 1746 65009 3 1602 1604 1746 65010 4 1575 1604 1604 1607 65011 4 1575 1603
    1576 1585 65012 4 1605 1581 1605 1583 65013 4 1589 1604 1593 1605 65014 4 1585 1587 1608
    1604 65015 4 1593 1604 1610 1607 65016 4 1608 1587 1604 1605 65017 3 1589 1604 1609 65137 2
    1600 1611 65143 2 1600 1614 65145 2 1600 1615 65147 2 1600 1616 65149 2 1600 1617 65151 2
    1600 1618 65153 2 1575 1619 65154 2 1575 1619 65155 2 1575 1620 65156 2 1575 1620 65157 2
    1608 1620 65158 2 1608 1620 65159 2 1575 1621 65160 2 1575 1621 65161 2 1610 1620 65162 2
    1610 1620 65163 2 1610 1620 65164 2 1610 1620 65269 3 1604 1575 1619 65270 3 1604 1575 1619
    65271 3 1604 1575 1620 65272 3 1604 1575 1620 65273 3 1604 1575 1621 65274 3 1604 1575 1621
    65275 2 1604 1575 65276 2 1604 1575 69786 2 69785 69818 69788 2 69787 69818 69803 2 69797
    69818 69934 2 69937 69927 69935 2 69938 69927 70475 2 70471 70462 70476 2 70471 70487 70843
    2 70841 70842 70844 2 70841 70832 70846 2 70841 70845 71098 2 71096 71087 71099 2 71097
    71087 71992 2 71989 71984"

/-- Runs `first width class` of combining marks. -/
def combiningRuns : List Nat := RangeTable.numbers
  "768 20 230 789 0 232 790 3 220 794 0 232 795 0 216 796 4 220 801 1 202 803 3 220 807 1 202
    809 10 220 820 4 1 825 3 220 829 7 230 837 0 240 838 0 230 839 2 220 842 2 230 845 1 220 848
    2 230 851 3 220 855 0 230 856 0 232 857 1 220 859 0 230 860 0 233 861 1 234 863 0 233 864 1
    234 866 0 233 867 12 230 1155 4 230 1425 0 220 1426 3 230 1430 0 220 1431 2 230 1434 0 222
    1435 0 220 1436 5 230 1442 5 220 1448 1 230 1450 0 220 1451 1 230 1453 0 222 1454 0 228 1455
    0 230 1456 0 10 1457 0 11 1458 0 12 1459 0 13 1460 0 14 1461 0 15 1462 0 16 1463 0 17 1464 0
    18 1465 1 19 1467 0 20 1468 0 21 1469 0 22 1471 0 23 1473 0 24 1474 0 25 1476 0 230 1477 0
    220 1479 0 18 1552 7 230 1560 0 30 1561 0 31 1562 0 32 1611 0 27 1612 0 28 1613 0 29 1614 0
    30 1615 0 31 1616 0 32 1617 0 33 1618 0 34 1619 1 230 1621 1 220 1623 4 230 1628 0 220 1629
    1 230 1631 0 220 1648 0 35 1750 6 230 1759 3 230 1763 0 220 1764 0 230 1767 1 230 1770 0 220
    1771 1 230 1773 0 220 1809 0 36 1840 0 230 1841 0 220 1842 1 230 1844 0 220 1845 1 230 1847
    2 220 1850 0 230 1851 1 220 1853 0 230 1854 0 220 1855 2 230 1858 0 220 1859 0 230 1860 0
    220 1861 0 230 1862 0 220 1863 0 230 1864 0 220 1865 1 230 2027 6 230 2034 0 220 2035 0 230
    2045 0 220 2070 3 230 2075 8 230 2085 2 230 2089 4 230 2137 2 220 2200 0 230 2201 2 220 2204
    3 230 2250 4 230 2255 4 220 2260 13 230 2275 0 220 2276 1 230 2278 0 220 2279 1 230 2281 0
    220 2282 2 230 2285 2 220 2288 0 27 2289 0 28 2290 0 29 2291 2 230 2294 0 220 2295 1 230
    2297 1 220 2299 4 230 2364 0 7 2381 0 9 2385 0 230 2386 0 220 2387 1 230 2492 0 7 2509 0 9
    2558 0 230 2620 0 7 2637 0 9 2748 0 7 2765 0 9 2876 0 7 2893 0 9 3021 0 9 3132 0 7 3149 0 9
    3157 0 84 3158 0 91 3260 0 7 3277 0 9 3387 1 9 3405 0 9 3530 0 9 3640 1 103 3642 0 9 3656 3
    107 3768 1 118 3770 0 9 3784 3 122 3864 1 220 3893 0 220 3895 0 220 3897 0 216 3953 0 129
    3954 0 130 3956 0 132 3962 3 130 3968 0 130 3970 1 230 3972 0 9 3974 1 230 4038 0 220 4151 0
    7 4153 1 9 4237 0 220 4957 2 230 5908 1 9 5940 0 9 6098 0 9 6109 0 230 6313 0 228 6457 0 222
    6458 0 230 6459 0 220 6679 0 230 6680 0 220 6752 0 9 6773 7 230 6783 0 220 6832 4 230 6837 5
    220 6843 1 230 6845 0 220 6847 1 220 6849 1 230 6851 1 220 6853 4 230 6858 0 220 6859 3 230
    6964 0 7 6980 0 9 7019 0 230 7020 0 220 7021 6 230 7082 1 9 7142 0 7 7154 1 9 7223 0 7 7376
    2 230 7380 0 1 7381 4 220 7386 1 230 7388 3 220 7392 0 230 7394 6 1 7405 0 220 7412 0 230
    7416 1 230 7616 1 230 7618 0 220 7619 6 230 7626 0 220 7627 1 230 7629 0 234 7630 0 214 7631
    0 220 7632 0 202 7633 36 230 7670 0 232 7671 1 228 7673 0 220 7674 0 218 7675 0 230 7676 0
    233 7677 0 220 7678 0 230 7679 0 220 8400 1 230 8402 1 1 8404 3 230 8408 2 1 8411 1 230 8417
    0 230 8421 1 1 8423 0 230 8424 0 220 8425 0 230 8426 1 1 8428 3 220 8432 0 230 11503 2 230
    11647 0 9 11744 31 230 12330 0 218 12331 0 228 12332 0 232 12333 0 222 12334 1 224 12441 1 8
    42607 0 230 42612 9 230 42654 1 230 42736 1 230 43014 0 9 43052 0 9 43204 0 9 43232 17 230
    43307 2 220 43347 0 9 43443 0 7 43456 0 9 43696 0 230 43698 1 230 43700 0 220 43703 1 230
    43710 1 230 43713 0 230 43766 0 9 44013 0 9 64286 0 26 65056 6 230 65063 6 220 65070 1 230
    66045 0 220 66272 0 220 66422 4 230 68109 0 220 68111 0 230 68152 0 230 68153 0 1 68154 0
    220 68159 0 9 68325 0 230 68326 0 220 68900 3 230 69291 1 230 69446 1 220 69448 2 230 69451
    0 220 69452 0 230 69453 3 220 69506 0 230 69507 0 220 69508 0 230 69509 0 220 69702 0 9
    69744 0 9 69759 0 9 69817 0 9 69818 0 7 69888 2 230 69939 1 9 70003 0 7 70080 0 9 70090 0 7
    70197 0 9 70198 0 7 70377 0 7 70378 0 9 70459 1 7 70477 0 9 70502 6 230 70512 4 230 70722 0
    9 70726 0 7 70750 0 230 70850 0 9 70851 0 7 71103 0 9 71104 0 7 71231 0 9 71350 0 9 71351 0
    7 71467 0 9 71737 0 9 71738 0 7 71997 1 9 72003 0 7 72160 0 9 72244 0 9 72263 0 9 72345 0 9
    72767 0 9 73026 0 7 73028 1 9 73111 0 9 92912 4 1 92976 6 230 94192 1 6 113822 0 1 119141 1
    216 119143 2 1 119149 0 226 119150 4 216 119163 7 220 119173 4 230 119178 1 220 119210 3 230
    119362 2 230 122880 6 230 122888 16 230 122907 6 230 122915 1 230 122918 4 230 123184 6 230
    123566 0 230 123628 3 230 125136 6 220 125252 5 230 125258 0 7"

/-- Triples `first second composed` of canonical composition. -/
def canonicalPairs : List Nat := RangeTable.numbers
  "60 824 8814 61 824 8800 62 824 8815 65 768 192 65 769 193 65 770 194 65 771 195 65 772 256
    65 774 258 65 775 550 65 776 196 65 777 7842 65 778 197 65 780 461 65 783 512 65 785 514 65
    803 7840 65 805 7680 65 808 260 66 775 7682 66 803 7684 66 817 7686 67 769 262 67 770 264 67
    775 266 67 780 268 67 807 199 68 775 7690 68 780 270 68 803 7692 68 807 7696 68 813 7698 68
    817 7694 69 768 200 69 769 201 69 770 202 69 771 7868 69 772 274 69 774 276 69 775 278 69
    776 203 69 777 7866 69 780 282 69 783 516 69 785 518 69 803 7864 69 807 552 69 808 280 69
    813 7704 69 816 7706 70 775 7710 71 769 500 71 770 284 71 772 7712 71 774 286 71 775 288 71
    780 486 71 807 290 72 770 292 72 775 7714 72 776 7718 72 780 542 72 803 7716 72 807 7720 72
    814 7722 73 768 204 73 769 205 73 770 206 73 771 296 73 772 298 73 774 300 73 775 304 73 776
    207 73 777 7880 73 780 463 73 783 520 73 785 522 73 803 7882 73 808 302 73 816 7724 74 770
    308 75 769 7728 75 780 488 75 803 7730 75 807 310 75 817 7732 76 769 313 76 780 317 76 803
    7734 76 807 315 76 813 7740 76 817 7738 77 769 7742 77 775 7744 77 803 7746 78 768 504 78
    769 323 78 771 209 78 775 7748 78 780 327 78 803 7750 78 807 325 78 813 7754 78 817 7752 79
    768 210 79 769 211 79 770 212 79 771 213 79 772 332 79 774 334 79 775 558 79 776 214 79 777
    7886 79 779 336 79 780 465 79 783 524 79 785 526 79 795 416 79 803 7884 79 808 490 80 769
    7764 80 775 7766 82 769 340 82 775 7768 82 780 344 82 783 528 82 785 530 82 803 7770 82 807
    342 82 817 7774 83 769 346 83 770 348 83 775 7776 83 780 352 83 803 7778 83 806 536 83 807
    350 84 775 7786 84 780 356 84 803 7788 84 806 538 84 807 354 84 813 7792 84 817 7790 85 768
    217 85 769 218 85 770 219 85 771 360 85 772 362 85 774 364 85 776 220 85 777 7910 85 778 366
    85 779 368 85 780 467 85 783 532 85 785 534 85 795 431 85 803 7908 85 804 7794 85 808 370 85
    813 7798 85 816 7796 86 771 7804 86 803 7806 87 768 7808 87 769 7810 87 770 372 87 775 7814
    87 776 7812 87 803 7816 88 775 7818 88 776 7820 89 768 7922 89 769 221 89 770 374 89 771
    7928 89 772 562 89 775 7822 89 776 376 89 777 7926 89 803 7924 90 769 377 90 770 7824 90 775
    379 90 780 381 90 803 7826 90 817 7828 97 768 224 97 769 225 97 770 226 97 771 227 97 772
    257 97 774 259 97 775 551 97 776 228 97 777 7843 97 778 229 97 780 462 97 783 513 97 785 515
    97 803 7841 97 805 7681 97 808 261 98 775 7683 98 803 7685 98 817 7687 99 769 263 99 770 265
    99 775 267 99 780 269 99 807 231 100 775 7691 100 780 271 100 803 7693 100 807 7697 100 813
    7699 100 817 7695 101 768 232 101 769 233 101 770 234 101 771 7869 101 772 275 101 774 277
    101 775 279 101 776 235 101 777 7867 101 780 283 101 783 517 101 785 519 101 803 7865 101
    807 553 101 808 281 101 813 7705 101 816 7707 102 775 7711 103 769 501 103 770 285 103 772
    7713 103 774 287 103 775 289 103 780 487 103 807 291 104 770 293 104 775 7715 104 776 7719
    104 780 543 104 803 7717 104 807 7721 104 814 7723 104 817 7830 105 768 236 105 769 237 105
    770 238 105 771 297 105 772 299 105 774 301 105 776 239 105 777 7881 105 780 464 105 783 521
    105 785 523 105 803 7883 105 808 303 105 816 7725 106 770 309 106 780 496 107 769 7729 107
    780 489 107 803 7731 107 807 311 107 817 7733 108 769 314 108 780 318 108 803 7735 108 807
    316 108 813 7741 108 817 7739 109 769 7743 109 775 7745 109 803 7747 110 768 505 110 769 324
    110 771 241 110 775 7749 110 780 328 110 803 7751 110 807 326 110 813 7755 110 817 7753 111
    768 242 111 769 243 111 770 244 111 771 245 111 772 333 111 774 335 111 775 559 111 776 246
    111 777 7887 111 779 337 111 780 466 111 783 525 111 785 527 111 795 417 111 803 7885 111
    808 491 112 769 7765 112 775 7767 114 769 341 114 775 7769 114 780 345 114 783 529 114 785
    531 114 803 7771 114 807 343 114 817 7775 115 769 347 115 770 349 115 775 7777 115 780 353
    115 803 7779 115 806 537 115 807 351 116 775 7787 116 776 7831 116 780 357 116 803 7789 116
    806 539 116 807 355 116 813 7793 116 817 7791 117 768 249 117 769 250 117 770 251 117 771
    361 117 772 363 117 774 365 117 776 252 117 777 7911 117 778 367 117 779 369 117 780 468 117
    783 533 117 785 535 117 795 432 117 803 7909 117 804 7795 117 808 371 117 813 7799 117 816
    7797 118 771 7805 118 803 7807 119 768 7809 119 769 7811 119 770 373 119 775 7815 119 776
    7813 119 778 7832 119 803 7817 120 775 7819 120 776 7821 121 768 7923 121 769 253 121 770
    375 121 771 7929 121 772 563 121 775 7823 121 776 255 121 777 7927 121 778 7833 121 803 7925
    122 769 378 122 770 7825 122 775 380 122 780 382 122 803 7827 122 817 7829 168 768 8173 168
    769 901 168 834 8129 194 768 7846 194 769 7844 194 771 7850 194 777 7848 196 772 478 197 769
    506 198 769 508 198 772 482 199 769 7688 202 768 7872 202 769 7870 202 771 7876 202 777 7874
    207 769 7726 212 768 7890 212 769 7888 212 771 7894 212 777 7892 213 769 7756 213 772 556
    213 776 7758 214 772 554 216 769 510 220 768 475 220 769 471 220 772 469 220 780 473 226 768
    7847 226 769 7845 226 771 7851 226 777 7849 228 772 479 229 769 507 230 769 509 230 772 483
    231 769 7689 234 768 7873 234 769 7871 234 771 7877 234 777 7875 239 769 7727 244 768 7891
    244 769 7889 244 771 7895 244 777 7893 245 769 7757 245 772 557 245 776 7759 246 772 555 248
    769 511 252 768 476 252 769 472 252 772 470 252 780 474 258 768 7856 258 769 7854 258 771
    7860 258 777 7858 259 768 7857 259 769 7855 259 771 7861 259 777 7859 274 768 7700 274 769
    7702 275 768 7701 275 769 7703 332 768 7760 332 769 7762 333 768 7761 333 769 7763 346 775
    7780 347 775 7781 352 775 7782 353 775 7783 360 769 7800 361 769 7801 362 776 7802 363 776
    7803 383 775 7835 416 768 7900 416 769 7898 416 771 7904 416 777 7902 416 803 7906 417 768
    7901 417 769 7899 417 771 7905 417 777 7903 417 803 7907 431 768 7914 431 769 7912 431 771
    7918 431 777 7916 431 803 7920 432 768 7915 432 769 7913 432 771 7919 432 777 7917 432 803
    7921 439 780 494 490 772 492 491 772 493 550 772 480 551 772 481 552 774 7708 553 774 7709
    558 772 560 559 772 561 658 780 495 913 768 8122 913 769 902 913 772 8121 913 774 8120 913
    787 7944 913 788 7945 913 837 8124 917 768 8136 917 769 904 917 787 7960 917 788 7961 919
    768 8138 919 769 905 919 787 7976 919 788 7977 919 837 8140 921 768 8154 921 769 906 921 772
    8153 921 774 8152 921 776 938 921 787 7992 921 788 7993 927 768 8184 927 769 908 927 787
    8008 927 788 8009 929 788 8172 933 768 8170 933 769 910 933 772 8169 933 774 8168 933 776
    939 933 788 8025 937 768 8186 937 769 911 937 787 8040 937 788 8041 937 837 8188 940 837
    8116 942 837 8132 945 768 8048 945 769 940 945 772 8113 945 774 8112 945 787 7936 945 788
    7937 945 834 8118 945 837 8115 949 768 8050 949 769 941 949 787 7952 949 788 7953 951 768
    8052 951 769 942 951 787 7968 951 788 7969 951 834 8134 951 837 8131 953 768 8054 953 769
    943 953 772 8145 953 774 8144 953 776 970 953 787 7984 953 788 7985 953 834 8150 959 768
    8056 959 769 972 959 787 8000 959 788 8001 961 787 8164 961 788 8165 965 768 8058 965 769
    973 965 772 8161 965 774 8160 965 776 971 965 787 8016 965 788 8017 965 834 8166 969 768
    8060 969 769 974 969 787 8032 969 788 8033 969 834 8182 969 837 8179 970 768 8146 970 769
    912 970 834 8151 971 768 8162 971 769 944 971 834 8167 974 837 8180 978 769 979 978 776 980
    1030 776 1031 1040 774 1232 1040 776 1234 1043 769 1027 1045 768 1024 1045 774 1238 1045 776
    1025 1046 774 1217 1046 776 1244 1047 776 1246 1048 768 1037 1048 772 1250 1048 774 1049
    1048 776 1252 1050 769 1036 1054 776 1254 1059 772 1262 1059 774 1038 1059 776 1264 1059 779
    1266 1063 776 1268 1067 776 1272 1069 776 1260 1072 774 1233 1072 776 1235 1075 769 1107
    1077 768 1104 1077 774 1239 1077 776 1105 1078 774 1218 1078 776 1245 1079 776 1247 1080 768
    1117 1080 772 1251 1080 774 1081 1080 776 1253 1082 769 1116 1086 776 1255 1091 772 1263
    1091 774 1118 1091 776 1265 1091 779 1267 1095 776 1269 1099 776 1273 1101 776 1261 1110 776
    1111 1140 783 1142 1141 783 1143 1240 776 1242 1241 776 1243 1256 776 1258 1257 776 1259
    1575 1619 1570 1575 1620 1571 1575 1621 1573 1608 1620 1572 1610 1620 1574 1729 1620 1730
    1746 1620 1747 1749 1620 1728 2344 2364 2345 2352 2364 2353 2355 2364 2356 2503 2494 2507
    2503 2519 2508 2887 2878 2891 2887 2902 2888 2887 2903 2892 2962 3031 2964 3014 3006 3018
    3014 3031 3020 3015 3006 3019 3142 3158 3144 3263 3285 3264 3270 3266 3274 3270 3285 3271
    3270 3286 3272 3274 3285 3275 3398 3390 3402 3398 3415 3404 3399 3390 3403 3545 3530 3546
    3545 3535 3548 3545 3551 3550 3548 3530 3549 4133 4142 4134 6917 6965 6918 6919 6965 6920
    6921 6965 6922 6923 6965 6924 6925 6965 6926 6929 6965 6930 6970 6965 6971 6972 6965 6973
    6974 6965 6976 6975 6965 6977 6978 6965 6979 7734 772 7736 7735 772 7737 7770 772 7772 7771
    772 7773 7778 775 7784 7779 775 7785 7840 770 7852 7840 774 7862 7841 770 7853 7841 774 7863
    7864 770 7878 7865 770 7879 7884 770 7896 7885 770 7897 7936 768 7938 7936 769 7940 7936 834
    7942 7936 837 8064 7937 768 7939 7937 769 7941 7937 834 7943 7937 837 8065 7938 837 8066
    7939 837 8067 7940 837 8068 7941 837 8069 7942 837 8070 7943 837 8071 7944 768 7946 7944 769
    7948 7944 834 7950 7944 837 8072 7945 768 7947 7945 769 7949 7945 834 7951 7945 837 8073
    7946 837 8074 7947 837 8075 7948 837 8076 7949 837 8077 7950 837 8078 7951 837 8079 7952 768
    7954 7952 769 7956 7953 768 7955 7953 769 7957 7960 768 7962 7960 769 7964 7961 768 7963
    7961 769 7965 7968 768 7970 7968 769 7972 7968 834 7974 7968 837 8080 7969 768 7971 7969 769
    7973 7969 834 7975 7969 837 8081 7970 837 8082 7971 837 8083 7972 837 8084 7973 837 8085
    7974 837 8086 7975 837 8087 7976 768 7978 7976 769 7980 7976 834 7982 7976 837 8088 7977 768
    7979 7977 769 7981 7977 834 7983 7977 837 8089 7978 837 8090 7979 837 8091 7980 837 8092
    7981 837 8093 7982 837 8094 7983 837 8095 7984 768 7986 7984 769 7988 7984 834 7990 7985 768
    7987 7985 769 7989 7985 834 7991 7992 768 7994 7992 769 7996 7992 834 7998 7993 768 7995
    7993 769 7997 7993 834 7999 8000 768 8002 8000 769 8004 8001 768 8003 8001 769 8005 8008 768
    8010 8008 769 8012 8009 768 8011 8009 769 8013 8016 768 8018 8016 769 8020 8016 834 8022
    8017 768 8019 8017 769 8021 8017 834 8023 8025 768 8027 8025 769 8029 8025 834 8031 8032 768
    8034 8032 769 8036 8032 834 8038 8032 837 8096 8033 768 8035 8033 769 8037 8033 834 8039
    8033 837 8097 8034 837 8098 8035 837 8099 8036 837 8100 8037 837 8101 8038 837 8102 8039 837
    8103 8040 768 8042 8040 769 8044 8040 834 8046 8040 837 8104 8041 768 8043 8041 769 8045
    8041 834 8047 8041 837 8105 8042 837 8106 8043 837 8107 8044 837 8108 8045 837 8109 8046 837
    8110 8047 837 8111 8048 837 8114 8052 837 8130 8060 837 8178 8118 837 8119 8127 768 8141
    8127 769 8142 8127 834 8143 8134 837 8135 8182 837 8183 8190 768 8157 8190 769 8158 8190 834
    8159 8592 824 8602 8594 824 8603 8596 824 8622 8656 824 8653 8658 824 8655 8660 824 8654
    8707 824 8708 8712 824 8713 8715 824 8716 8739 824 8740 8741 824 8742 8764 824 8769 8771 824
    8772 8773 824 8775 8776 824 8777 8781 824 8813 8801 824 8802 8804 824 8816 8805 824 8817
    8818 824 8820 8819 824 8821 8822 824 8824 8823 824 8825 8826 824 8832 8827 824 8833 8828 824
    8928 8829 824 8929 8834 824 8836 8835 824 8837 8838 824 8840 8839 824 8841 8849 824 8930
    8850 824 8931 8866 824 8876 8872 824 8877 8873 824 8878 8875 824 8879 8882 824 8938 8883 824
    8939 8884 824 8940 8885 824 8941 12358 12441 12436 12363 12441 12364 12365 12441 12366 12367
    12441 12368 12369 12441 12370 12371 12441 12372 12373 12441 12374 12375 12441 12376 12377
    12441 12378 12379 12441 12380 12381 12441 12382 12383 12441 12384 12385 12441 12386 12388
    12441 12389 12390 12441 12391 12392 12441 12393 12399 12441 12400 12399 12442 12401 12402
    12441 12403 12402 12442 12404 12405 12441 12406 12405 12442 12407 12408 12441 12409 12408
    12442 12410 12411 12441 12412 12411 12442 12413 12445 12441 12446 12454 12441 12532 12459
    12441 12460 12461 12441 12462 12463 12441 12464 12465 12441 12466 12467 12441 12468 12469
    12441 12470 12471 12441 12472 12473 12441 12474 12475 12441 12476 12477 12441 12478 12479
    12441 12480 12481 12441 12482 12484 12441 12485 12486 12441 12487 12488 12441 12489 12495
    12441 12496 12495 12442 12497 12498 12441 12499 12498 12442 12500 12501 12441 12502 12501
    12442 12503 12504 12441 12505 12504 12442 12506 12507 12441 12508 12507 12442 12509 12527
    12441 12535 12528 12441 12536 12529 12441 12537 12530 12441 12538 12541 12441 12542 69785
    69818 69786 69787 69818 69788 69797 69818 69803 69937 69927 69934 69938 69927 69935 70471
    70462 70475 70471 70487 70476 70841 70832 70844 70841 70842 70843 70841 70845 70846 71096
    71087 71098 71097 71087 71099 71989 71984 71992"

end Phrasebook.Text
